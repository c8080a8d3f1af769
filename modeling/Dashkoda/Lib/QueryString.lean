import Dashkoda.Lib.PyText

/-!
# Query strings

Values are percent-encoded byte by byte.  A query string is split at ampersands, its fields at their
first equals sign, and both sides are decoded; what is no UTF-8 is replaced.
-/

namespace Lib

namespace QueryString

/-! ## Bytes as text -/

/-- How many bytes of an ill-formed sequence one replacement character stands for: the longest start
of a well-formed sequence, or a single byte. -/
def illFormedLength : List UInt8 → Nat
  | first :: second :: rest =>
    let continues (b : UInt8) : Bool := 0x80 ≤ b && b ≤ 0xBF
    if 0xE0 ≤ first && first ≤ 0xEF then
      if continues second && (first ≠ 0xE0 || 0xA0 ≤ second) &&
        (first ≠ 0xED || second ≤ 0x9F) then 2 else 1
    else if 0xF0 ≤ first && first ≤ 0xF4 then
      if continues second && (first ≠ 0xF0 || 0x90 ≤ second) && (first ≠ 0xF4 || second ≤ 0x8F) then
        if rest.head?.any continues then 3 else 2
      else 1
    else 1
  | _ => 1

def decodeLoop : Nat → List UInt8 → List Char
  | _, [] => []
  | 0, _ :: _ => []
  | fuel + 1, bytes =>
    match bytes.toByteArray.utf8DecodeChar? 0 with
    | some c => c :: decodeLoop fuel (bytes.drop c.utf8Size)
    | none => Char.ofNat 0xFFFD :: decodeLoop fuel (bytes.drop (illFormedLength bytes))

/-- `bytes.decode("utf-8", "replace")` -/
def decodeReplace (bytes : List UInt8) : List Char := decodeLoop bytes.length bytes

def encode (text : List Char) : List UInt8 := text.flatMap String.utf8EncodeChar

theorem decodeLoop_cons {fuel : Nat} {bytes : List UInt8} (h : bytes ≠ []) :
    decodeLoop (fuel + 1) bytes =
      match bytes.toByteArray.utf8DecodeChar? 0 with
      | some c => c :: decodeLoop fuel (bytes.drop c.utf8Size)
      | none => Char.ofNat 0xFFFD :: decodeLoop fuel (bytes.drop (illFormedLength bytes)) := by
  cases bytes with
  | nil => exact absurd rfl h
  | cons first rest => rfl

theorem decodeLoop_encode {text : List Char} {fuel : Nat} (h : text.length ≤ fuel) :
    decodeLoop fuel (encode text) = text := by
  induction text generalizing fuel with
  | nil => cases fuel <;> rfl
  | cons c rest ih =>
    cases fuel with
    | zero => cases h
    | succ fuel =>
      have hbytes : encode (c :: rest) = String.utf8EncodeChar c ++ encode rest := List.flatMap_cons
      have hdecode : (encode (c :: rest)).toByteArray.utf8DecodeChar? 0 = some c := by
        rw [hbytes, List.toByteArray_append]
        exact ByteArray.utf8DecodeChar?_utf8EncodeChar_append
      have hdrop : (encode (c :: rest)).drop c.utf8Size = encode rest := by
        rw [hbytes, ← String.length_utf8EncodeChar]
        exact List.drop_left
      have hne : encode (c :: rest) ≠ [] := by
        rw [hbytes]
        intro hnil
        have hlength := congrArg List.length hnil
        have hpos := c.utf8Size_pos
        rw [List.length_append, String.length_utf8EncodeChar, List.length_nil] at hlength
        omega
      rw [decodeLoop_cons hne, hdecode]
      show c :: decodeLoop fuel ((encode (c :: rest)).drop c.utf8Size) = c :: rest
      rw [hdrop, ih (Nat.le_of_succ_le_succ h)]

theorem decodeReplace_encode (text : List Char) : decodeReplace (encode text) = text := by
  apply decodeLoop_encode
  induction text with
  | nil => exact Nat.zero_le _
  | cons c rest ih =>
    have hbytes : encode (c :: rest) = String.utf8EncodeChar c ++ encode rest := List.flatMap_cons
    have hpos := c.utf8Size_pos
    rw [hbytes, List.length_append, String.length_utf8EncodeChar, List.length_cons]
    omega

/-! ## Percent encoding -/

/-- The characters that stand for themselves. -/
def isSafe (c : Char) : Bool := c.isAlphanum || c = '_' || c = '.' || c = '-' || c = '~' || c = '/'

def hexDigit (n : Nat) : Char := if n < 10 then Char.ofNat ('0'.toNat + n) else
    Char.ofNat ('A'.toNat + (n - 10))

def quoteByte (b : UInt8) : List Char :=
  let c := Char.ofNat b.toNat
  if isSafe c then [c] else ['%', hexDigit (b.toNat / 16), hexDigit (b.toNat % 16)]

/-- `quote(text)` -/
def quote (text : String) : List Char := (encode text.toList).flatMap quoteByte

def hexValue (c : Char) : Option Nat :=
  if '0' ≤ c ∧ c ≤ '9' then some (c.toNat - '0'.toNat)
  else if 'a' ≤ c ∧ c ≤ 'f' then some (c.toNat - 'a'.toNat + 10)
  else if 'A' ≤ c ∧ c ≤ 'F' then some (c.toNat - 'A'.toNat + 10)
  else none

/-- `unquote_to_bytes` of an ASCII text -/
def unquoteBytes : List Char → List UInt8
  | [] => []
  | '%' :: high :: low :: rest =>
    match hexValue high, hexValue low with
    | some h, some l => UInt8.ofNat (h * 16 + l) :: unquoteBytes rest
    | _, _ => UInt8.ofNat '%'.toNat :: unquoteBytes (high :: low :: rest)
  | c :: rest => UInt8.ofNat c.toNat :: unquoteBytes rest

/-- Each run of ASCII characters is decoded on its own. -/
def unquoteRuns : List Char → List Char → List Char
  | run, [] => decodeReplace (unquoteBytes run)
  | run, c :: rest =>
    if c.toNat < 128 then unquoteRuns (run ++ [c]) rest
    else decodeReplace (unquoteBytes run) ++ c :: unquoteRuns [] rest

/-- `unquote(text)` -/
def unquote (text : List Char) : List Char := if '%' ∈ text then unquoteRuns [] text else text

/-- `unquote_plus(text)` -/
def unquotePlus (text : List Char) : List Char :=
  unquote (text.map fun c => if c = '+' then ' ' else c)

/-! ## Reading a quoted text back -/

section Quote

theorem utf8Size_ascii {c : Char} (h : c.toNat < 128) : c.utf8Size = 1 := by
  rw [Char.utf8Size_eq_one_iff, UInt32.le_iff_toNat_le]
  have hval : c.toNat = c.val.toNat := rfl
  have h127 : (127 : UInt32).toNat = 127 := rfl
  omega

theorem hexValue_hexDigit {n : Nat} (h : n < 16) : hexValue (hexDigit n) = some n := by
  have hall : ∀ n < 16, hexValue (hexDigit n) = some n := by decide
  exact hall n h

/-- The characters of a quoted text. -/
def isQuoted (c : Char) : Bool := isSafe c || c = '%'

theorem isSafe_toNat_lt {c : Char} (h : isSafe c = true) : c.toNat < 128 := by
  unfold isSafe at h
  simp only [Bool.or_eq_true, decide_eq_true_eq] at h
  have halnum (h : c.isAlphanum = true) : c.toNat < 128 := by
    unfold Char.isAlphanum Char.isAlpha Char.isUpper Char.isLower Char.isDigit at h
    simp only [Bool.or_eq_true, Bool.and_eq_true, decide_eq_true_eq, UInt32.le_iff_toNat_le] at h
    have hval : c.val.toNat = c.toNat := rfl
    simp only [hval] at h
    have hbounds : 'Z'.val.toNat = 90 ∧ 'z'.val.toNat = 122 ∧ '9'.val.toNat = 57 := ⟨rfl, rfl, rfl⟩
    omega
  rcases h with ((((h | h) | h) | h) | h) | h
  · exact halnum h
  all_goals
    rw [h]
    decide

theorem isSafe_hexDigit {n : Nat} (h : n < 16) : isSafe (hexDigit n) = true := by
  have hall : ∀ n < 16, isSafe (hexDigit n) = true := by decide
  exact hall n h

theorem isQuoted_quoteByte {b : UInt8} {c : Char} (h : c ∈ quoteByte b) : isQuoted c = true := by
  have hb : b.toNat < 256 := b.toNat_lt
  have hsafe {c : Char} (h : isSafe c = true) : isQuoted c = true := by
    unfold isQuoted
    rw [h]
    rfl
  unfold quoteByte at h
  by_cases hc : isSafe (Char.ofNat b.toNat) = true
  · rw [if_pos hc] at h
    rw [List.mem_singleton.mp h]
    exact hsafe hc
  · rw [if_neg hc] at h
    rcases List.mem_cons.mp h with rfl | h
    · rfl
    · rcases List.mem_cons.mp h with rfl | h
      · exact hsafe (isSafe_hexDigit (by omega))
      · rw [List.mem_singleton.mp h]
        exact hsafe (isSafe_hexDigit (by omega))

theorem isQuoted_quote {text : String} {c : Char} (h : c ∈ quote text) : isQuoted c = true := by
  obtain ⟨b, _, hc⟩ := List.mem_flatMap.mp h
  exact isQuoted_quoteByte hc

theorem isQuoted_toNat_lt {c : Char} (h : isQuoted c = true) : c.toNat < 128 := by
  unfold isQuoted at h
  rcases Bool.or_eq_true_iff.mp h with h | h
  · exact isSafe_toNat_lt h
  · rw [of_decide_eq_true h]
    decide

theorem unquoteBytes_cons {c : Char} (hc : c ≠ '%') (rest : List Char) :
    unquoteBytes (c :: rest) = UInt8.ofNat c.toNat :: unquoteBytes rest := by
  rw [unquoteBytes]
  intro high low more heq
  exact absurd heq hc

theorem unquoteBytes_percent {high low : Char} {h l : Nat} (hhigh : hexValue high = some h)
    (hlow : hexValue low = some l) (rest : List Char) :
    unquoteBytes ('%' :: high :: low :: rest) = UInt8.ofNat (h * 16 + l) :: unquoteBytes rest := by
  rw [unquoteBytes, hhigh, hlow]

/-- A quoted byte is read back. -/
theorem unquoteBytes_quoteByte (b : UInt8) (rest : List Char) :
    unquoteBytes (quoteByte b ++ rest) = b :: unquoteBytes rest := by
  have hb : b.toNat < 256 := b.toNat_lt
  unfold quoteByte
  by_cases hc : isSafe (Char.ofNat b.toNat) = true
  · have hpercent : Char.ofNat b.toNat ≠ '%' := by
      intro heq
      rw [heq] at hc
      exact absurd hc (by decide)
    have hvalid : b.toNat.isValidChar := Or.inl (by omega)
    have hnat : (Char.ofNat b.toNat).toNat = b.toNat := by
      unfold Char.ofNat
      rw [dif_pos hvalid]
      rfl
    rw [if_pos hc, List.singleton_append, unquoteBytes_cons hpercent, hnat, UInt8.ofNat_toNat]
  · have hvalue : b.toNat / 16 * 16 + b.toNat % 16 = b.toNat := Nat.div_add_mod' b.toNat 16
    rw [if_neg hc]
    show unquoteBytes ('%' :: hexDigit (b.toNat / 16) :: hexDigit (b.toNat % 16) :: rest) = _
    rw [unquoteBytes_percent (hexValue_hexDigit (by omega)) (hexValue_hexDigit (by omega)), hvalue,
      UInt8.ofNat_toNat]

theorem unquoteBytes_flatMap (bytes : List UInt8) :
    unquoteBytes (bytes.flatMap quoteByte) = bytes := by
  induction bytes with
  | nil => rfl
  | cons b rest ih => rw [List.flatMap_cons, unquoteBytes_quoteByte, ih]

theorem unquoteRuns_ascii {run rest : List Char} (h : ∀ c ∈ rest, c.toNat < 128) :
    unquoteRuns run rest = decodeReplace (unquoteBytes (run ++ rest)) := by
  induction rest generalizing run with
  | nil => rw [List.append_nil]; rfl
  | cons c rest ih =>
    rw [unquoteRuns, if_pos (h c List.mem_cons_self), ih fun d hd =>
      h d (List.mem_cons_of_mem _ hd),
      List.append_assoc, List.singleton_append]

/-- A text of ASCII characters without a percent sign has its characters as bytes. -/
theorem unquoteBytes_plain {text : List Char} (hascii : ∀ c ∈ text, c.toNat < 128)
    (h : '%' ∉ text) :
    unquoteBytes text = encode text := by
  induction text with
  | nil => rfl
  | cons c rest ih =>
    have hc := utf8Size_ascii (hascii c List.mem_cons_self)
    have hne : c ≠ '%' := fun heq => h (heq ▸ List.mem_cons_self)
    rw [unquoteBytes_cons hne, ih (fun d hd => hascii d (List.mem_cons_of_mem _ hd)) fun hmem =>
      h (List.mem_cons_of_mem _ hmem)]
    show _ = String.utf8EncodeChar c ++ encode rest
    rw [String.utf8EncodeChar_eq_singleton hc]
    rfl

theorem unquote_ascii {text : List Char} (h : ∀ c ∈ text, c.toNat < 128) :
    unquote text = decodeReplace (unquoteBytes text) := by
  unfold unquote
  by_cases hpercent : '%' ∈ text
  · rw [if_pos hpercent, unquoteRuns_ascii h, List.nil_append]
  · rw [if_neg hpercent, unquoteBytes_plain h hpercent, decodeReplace_encode]

/-- What was quoted is read back. -/
theorem unquote_quote (text : String) : unquote (quote text) = text.toList := by
  rw [unquote_ascii fun c hc => isQuoted_toNat_lt (isQuoted_quote hc)]
  unfold quote
  rw [unquoteBytes_flatMap, decodeReplace_encode]

theorem unquotePlus_of_no_plus {text : List Char} (h : '+' ∉ text) :
    unquotePlus text = unquote text := by
  have hmap : text.map (fun c => if c = '+' then ' ' else c) = text := by
    conv_rhs => rw [← List.map_id text]
    apply List.map_congr_left
    intro c hc
    exact if_neg fun heq : c = '+' => h (heq ▸ hc)
  unfold unquotePlus
  rw [hmap]

theorem not_mem_quote {text : String} {c : Char} (hc : isQuoted c = false) : c ∉ quote text := by
  intro hmem
  rw [isQuoted_quote hmem] at hc
  cases hc

theorem unquotePlus_quote (text : String) : unquotePlus (quote text) = text.toList := by
  rw [unquotePlus_of_no_plus (not_mem_quote (by decide)), unquote_quote]

/-- A text of safe characters is quoted as it is. -/
theorem quote_of_isSafe {text : String} (h : ∀ c ∈ text.toList, isSafe c = true) :
    quote text = text.toList := by
  have hchars (chars : List Char) (h : ∀ c ∈ chars, isSafe c = true) :
      (encode chars).flatMap quoteByte = chars := by
    induction chars with
    | nil => rfl
    | cons c rest ih =>
      have hsafe := h c List.mem_cons_self
      have hlt := isSafe_toNat_lt hsafe
      have hc := utf8Size_ascii hlt
      show (String.utf8EncodeChar c ++ encode rest).flatMap quoteByte = _
      rw [String.utf8EncodeChar_eq_singleton hc, List.singleton_append, List.flatMap_cons,
        ih fun d hd => h d (List.mem_cons_of_mem _ hd)]
      have hbyte : Char.ofNat (UInt8.ofNat c.toNat).toNat = c := by
        rw [UInt8.toNat_ofNat_of_lt' (Nat.lt_of_lt_of_le hlt (by decide)), Char.ofNat_toNat]
      have hself : quoteByte (UInt8.ofNat c.toNat) = [c] := by
        unfold quoteByte
        rw [hbyte, if_pos hsafe]
      show quoteByte (UInt8.ofNat c.toNat) ++ rest = c :: rest
      rw [hself]
      rfl
  exact hchars text.toList h

end Quote

/-! ## Fields -/

/-- `DATA_UPLOAD_MAX_NUMBER_FIELDS` -/
def maxFields : Nat := 1000

/-- `name, value` of one field. -/
def readField (field : List Char) : String × String :=
  (String.ofList (unquotePlus (field.takeWhile (· ≠ '='))),
    String.ofList (unquotePlus (field.dropWhile (· ≠ '=')).tail))

/-- The fields of a query string, in order; `none` is `TooManyFieldsSent`. -/
def parseQsl (text : List Char) : Option (List (String × String)) :=
  if text = [] then some []
  else if maxFields < 1 + text.count '&' then none
  else some (((text.splitOn '&').filter (· ≠ [])).map readField)

/-- `QueryDict.get(key)`: the last value counts. -/
def get (fields : List (String × String)) (key : String) : Option String :=
  ((fields.filter fun field => field.1 = key).getLast?).map Prod.snd

/-- `f"{key}={quote(value)}"` -/
def field (pair : String × String) : List Char := pair.1.toList ++ '=' :: quote pair.2

/-- The field of a value, where there is one. -/
def optional (name : String) (value : Option String) : List (String × String) :=
  value.toList.map fun text => (name, text)

/-- `"&".join(parts)` -/
def joined (pairs : List (String × String)) : List Char := ['&'].intercalate (pairs.map field)

section Fields

/-- A name that is written as it is. -/
def Plain (name : String) : Prop := ∀ c ∈ name.toList, isSafe c = true

instance (name : String) : Decidable (Plain name) := inferInstanceAs (Decidable (∀ _ ∈ _, _))

variable {pairs : List (String × String)}

theorem plain_of_all {name : String} (h : name.toList.all isSafe = true) : Plain name :=
  List.all_eq_true.mp h

theorem Plain.not_mem {name : String} (h : Plain name) {c : Char} (hc : isSafe c = false) :
    c ∉ name.toList := by
  intro hmem
  rw [h c hmem] at hc
  cases hc

theorem not_mem_field {pair : String × String} (h : Plain pair.1) : '&' ∉ field pair := by
  unfold field
  rw [List.mem_append, List.mem_cons]
  rintro (hname | hequals | hvalue)
  · exact h.not_mem (by decide) hname
  · exact absurd hequals (by decide)
  · exact not_mem_quote (by decide) hvalue

/-- A field gives its name and value back. -/
theorem readField_field {pair : String × String} (h : Plain pair.1) :
    readField (field pair) = pair := by
  have hname : ∀ c ∈ pair.1.toList, decide (c ≠ '=') = true := by
    intro c hc
    refine decide_eq_true fun heq => ?_
    exact h.not_mem (by decide) (heq ▸ hc)
  have hsplit : (field pair).takeWhile (· ≠ '=') = pair.1.toList ∧
      ((field pair).dropWhile (· ≠ '=')).tail = quote pair.2 := by
    unfold field
    rw [List.takeWhile_append_of_pos hname, List.dropWhile_append_of_pos hname]
    simp
  have hread : unquotePlus pair.1.toList = pair.1.toList := by
    have hquoted := unquotePlus_quote pair.1
    rwa [quote_of_isSafe h] at hquoted
  unfold readField
  rw [hsplit.1, hsplit.2, hread, unquotePlus_quote, String.ofList_toList, String.ofList_toList]

theorem count_joined (hplain : ∀ pair ∈ pairs, Plain pair.1) :
    (joined pairs).count '&' + 1 ≤ max pairs.length 1 := by
  have hfield {pair : String × String} (h : Plain pair.1) : (field pair).count '&' = 0 :=
    List.count_eq_zero.mpr (not_mem_field h)
  unfold joined
  induction pairs with
  | nil => exact Nat.le_refl _
  | cons pair rest ih =>
    have hrest := ih fun other hother => hplain other (List.mem_cons_of_mem _ hother)
    cases rest with
    | nil =>
      simp [List.intercalate, hfield (hplain pair List.mem_cons_self)]
    | cons next rest =>
      rw [List.map_cons, List.map_cons, List.intercalate_cons_cons, List.count_append,
        List.count_append,
        hfield (hplain pair List.mem_cons_self)]
      rw [List.map_cons] at hrest
      simp only [List.length_cons, List.count_cons_self, List.count_nil] at hrest ⊢
      omega

/-- Fields with plain names are read back as they were written. -/
theorem parseQsl_joined (hplain : ∀ pair ∈ pairs, Plain pair.1) (hfew : pairs.length ≤ maxFields) :
    parseQsl (joined pairs) = some pairs := by
  cases pairs with
  | nil => rfl
  | cons pair rest =>
    have hne {pair : String × String} : field pair ≠ [] := by
      unfold field
      exact List.append_ne_nil_of_right_ne_nil _ (List.cons_ne_nil _ _)
    have hsplit : (joined (pair :: rest)).splitOn '&' = (pair :: rest).map field := by
      refine List.splitOn_intercalate _ (fun text htext => ?_) (List.cons_ne_nil _ _)
      obtain ⟨other, hother, rfl⟩ := List.mem_map.mp htext
      exact not_mem_field (hplain other hother)
    have hnonempty : joined (pair :: rest) ≠ [] := by
      intro hnil
      rw [hnil] at hsplit
      have hlength := congrArg List.head? hsplit
      exact hne (Option.some.inj hlength).symm
    have hcount := count_joined hplain
    unfold parseQsl
    rw [if_neg hnonempty, if_neg (by simp only [List.length_cons] at hcount hfew; omega), hsplit]
    congr 1
    rw [List.filter_eq_self.mpr, List.map_map]
    · conv_rhs => rw [← List.map_id (pair :: rest)]
      exact List.map_congr_left fun other hother => readField_field (hplain other hother)
    · intro text htext
      obtain ⟨other, _, rfl⟩ := List.mem_map.mp htext
      exact decide_eq_true hne

/-- Under distinct names each field is found. -/
theorem get_eq_some {key value : String} (hnames : (pairs.map Prod.fst).Nodup)
    (h : (key, value) ∈ pairs) :
    get pairs key = some value := by
  have hone : pairs.filter (fun field => field.1 = key) = [(key, value)] := by
    induction pairs with
    | nil => cases h
    | cons pair rest ih =>
      obtain ⟨hfresh, hrest⟩ := List.nodup_cons.mp hnames
      rcases List.mem_cons.mp h with rfl | hmem
      · rw [List.filter_cons, if_pos (decide_eq_true rfl), List.filter_eq_nil_iff.mpr]
        intro other hother hkey
        have hsame : other.1 = key := of_decide_eq_true hkey
        exact hfresh (List.mem_map.mpr ⟨other, hother, hsame⟩)
      · rw [List.filter_cons_of_neg, ih hrest hmem]
        intro hkey
        have hsame : pair.1 = key := of_decide_eq_true hkey
        exact hfresh (List.mem_map.mpr ⟨(key, value), hmem, hsame.symm⟩)
  unfold get
  rw [hone]
  rfl

theorem get_eq_none {key : String} (h : key ∉ pairs.map Prod.fst) : get pairs key = none := by
  unfold get
  rw [List.filter_eq_nil_iff.mpr]
  · rfl
  · intro pair hpair hkey
    have hsame : pair.1 = key := of_decide_eq_true hkey
    exact h (List.mem_map.mpr ⟨pair, hpair, hsame⟩)

/-- Where only what is not empty is written, a name is found with its value or not at all. -/
theorem get_written {key value : String} (hnames : (pairs.map Prod.fst).Nodup)
    (h : (key, value) ∈ pairs) :
    get (pairs.filter (·.2 ≠ "")) key = if value = "" then none else some value := by
  have hsub := (List.filter_sublist (l := pairs) (p := (·.2 ≠ ""))).map Prod.fst
  by_cases hempty : value = ""
  · rw [if_pos hempty]
    refine get_eq_none fun hmem => ?_
    obtain ⟨pair, hpair, hkey⟩ := List.mem_map.mp hmem
    obtain ⟨hin, hne⟩ := List.mem_filter.mp hpair
    -- the name has one value
    have hfound : get pairs key = some pair.2 := get_eq_some hnames (hkey ▸ hin)
    rw [get_eq_some hnames h] at hfound
    exact of_decide_eq_true hne ((Option.some.inj hfound).symm.trans hempty)
  · rw [if_neg hempty]
    exact get_eq_some (hnames.sublist hsub) (List.mem_filter.mpr ⟨h, decide_eq_true hempty⟩)

/-- The last value counts. -/
theorem get_append (a b : List (String × String)) (key : String) :
    get (a ++ b) key = (get b key).or (get a key) := by
  unfold get
  rw [List.filter_append, List.getLast?_append]
  cases (b.filter fun field => field.1 = key).getLast? <;> rfl

theorem get_cons (name value key : String) (rest : List (String × String)) :
    get ((name, value) :: rest) key = (get rest key).or
      (if name = key then some value else none) := by
  rw [← List.singleton_append, get_append]
  congr 1
  unfold get
  rw [List.filter_cons]
  by_cases h : name = key
  · rw [if_pos (decide_eq_true h), if_pos h]
    rfl
  · rw [if_neg (fun hkey => h (of_decide_eq_true hkey)), if_neg h]
    rfl

theorem get_optional (name key : String) (value : Option String) :
    get (optional name value) key = if name = key then value else none := by
  cases value with
  | none => exact (ite_self none).symm
  | some text =>
    show get ((name, text) :: []) key = _
    rw [get_cons]
    rfl

theorem mem_optional {name : String} {value : Option String} {pair : String × String}
    (h : pair ∈ optional name value) : pair.1 = name := by
  obtain ⟨text, -, rfl⟩ := List.mem_map.mp h
  rfl

/-- A part after others is put behind another ampersand. -/
theorem joined_append {more : List (String × String)} (h : pairs ≠ []) (hmore : more ≠ []) :
    ['&'].intercalate (pairs.map field ++ [joined more]) = joined (pairs ++ more) := by
  unfold joined
  rw [List.map_append]
  induction pairs with
  | nil => exact absurd rfl h
  | cons pair rest ih =>
    have hrest : more.map field ≠ [] := fun hnil => hmore (List.map_eq_nil_iff.mp hnil)
    cases rest with
    | nil =>
      show ['&'].intercalate [field pair, ['&'].intercalate (more.map field)] =
        ['&'].intercalate (field pair :: more.map field)
      rw [List.intercalate_cons_cons, List.intercalate_singleton,
        List.intercalate_cons_of_ne_nil hrest]
    | cons next rest =>
      have htail := ih (List.cons_ne_nil _ _)
      rw [List.map_cons, List.map_cons, List.cons_append, List.cons_append,
        List.intercalate_cons_cons]
      rw [List.map_cons, List.cons_append] at htail
      rw [htail]
      show _ = ['&'].intercalate (field pair :: field next :: (rest.map field ++ more.map field))
      rw [List.intercalate_cons_cons]
      rfl

theorem joined_ne_nil (h : pairs ≠ []) : joined pairs ≠ [] := by
  cases pairs with
  | nil => exact absurd rfl h
  | cons pair rest =>
    unfold joined
    cases rest with
    | nil =>
      rw [List.map_cons, List.map_nil, List.intercalate_singleton]
      exact List.append_ne_nil_of_right_ne_nil _ (List.cons_ne_nil _ _)
    | cons next rest =>
      rw [List.map_cons, List.map_cons, List.intercalate_cons_cons]
      exact List.append_ne_nil_of_left_ne_nil
        (List.append_ne_nil_of_right_ne_nil _ (List.cons_ne_nil _ _)) _

end Fields

/-! ## Encoding names and values -/

section Encode

def plusToBlank (c : Char) : Char := if c = '+' then ' ' else c

def quotePlusByte (b : UInt8) : List Char :=
  let c := Char.ofNat b.toNat
  if c = ' ' then ['+']
  else if isSafe c = true ∧ c ≠ '/' then [c]
  else ['%', hexDigit (b.toNat / 16), hexDigit (b.toNat % 16)]

/-- `quote_plus(text)` -/
def quotePlus (text : String) : List Char := (encode text.toList).flatMap quotePlusByte

/-- `urlencode(pairs)` -/
def urlencode (pairs : List (String × String)) : List Char :=
  ['&'].intercalate (pairs.map fun pair => quotePlus pair.1 ++ '=' :: quotePlus pair.2)

/-- `parse_qsl(text, keep_blank_values=True)` -/
def parseAll (text : List Char) : List (String × String) :=
  ((text.splitOn '&').filter (· ≠ [])).map readField

/-- The characters of an encoded text. -/
def isEncoded (c : Char) : Bool := isQuoted c || c = '+'

theorem isEncoded_quotePlusByte {b : UInt8} {c : Char} (h : c ∈ quotePlusByte b) :
    isEncoded c = true := by
  have hb : b.toNat < 256 := b.toNat_lt
  have hsafe {c : Char} (h : isSafe c = true) : isEncoded c = true := by
    unfold isEncoded isQuoted
    rw [h]
    rfl
  unfold quotePlusByte at h
  dsimp only at h
  by_cases hblank : Char.ofNat b.toNat = ' '
  · rw [if_pos hblank] at h
    rw [List.mem_singleton.mp h]
    rfl
  · rw [if_neg hblank] at h
    by_cases hc : isSafe (Char.ofNat b.toNat) = true ∧ Char.ofNat b.toNat ≠ '/'
    · rw [if_pos hc] at h
      rw [List.mem_singleton.mp h]
      exact hsafe hc.1
    · rw [if_neg hc] at h
      rcases List.mem_cons.mp h with rfl | h
      · rfl
      · rcases List.mem_cons.mp h with rfl | h
        · exact hsafe (isSafe_hexDigit (by omega))
        · rw [List.mem_singleton.mp h]
          exact hsafe (isSafe_hexDigit (by omega))

theorem isEncoded_quotePlus {text : String} {c : Char} (h : c ∈ quotePlus text) :
    isEncoded c = true := by
  obtain ⟨b, -, hc⟩ := List.mem_flatMap.mp h
  exact isEncoded_quotePlusByte hc

/-- An encoded byte is read back. -/
theorem unquoteBytes_quotePlusByte (b : UInt8) (rest : List Char) :
    unquoteBytes ((quotePlusByte b).map plusToBlank ++ rest) = b :: unquoteBytes rest := by
  have hb : b.toNat < 256 := b.toNat_lt
  have hvalid : b.toNat.isValidChar := Or.inl (by omega)
  have hnat : (Char.ofNat b.toNat).toNat = b.toNat := by
    unfold Char.ofNat
    rw [dif_pos hvalid]
    rfl
  have hplain {c : Char} (hc : Char.ofNat b.toNat = c) (hpercent : c ≠ '%') (more : List Char) :
      unquoteBytes (c :: more) = b :: unquoteBytes more := by
    rw [unquoteBytes_cons hpercent, ← hc, hnat, UInt8.ofNat_toNat]
  have hsame {c : Char} (hc : isSafe c = true) : plusToBlank c = c := by
    unfold plusToBlank
    refine if_neg fun hplus => ?_
    rw [hplus] at hc
    exact absurd hc (by decide)
  unfold quotePlusByte
  dsimp only
  by_cases hblank : Char.ofNat b.toNat = ' '
  · rw [if_pos hblank]
    exact hplain hblank (by decide) rest
  · rw [if_neg hblank]
    by_cases hc : isSafe (Char.ofNat b.toNat) = true ∧ Char.ofNat b.toNat ≠ '/'
    · rw [if_pos hc, List.map_singleton, List.singleton_append, hsame hc.1]
      refine hplain rfl (fun hpercent => ?_) rest
      rw [hpercent] at hc
      exact absurd hc.1 (by decide)
    · have hvalue : b.toNat / 16 * 16 + b.toNat % 16 = b.toNat := Nat.div_add_mod' b.toNat 16
      rw [if_neg hc]
      simp only [List.map_cons, List.map_nil, List.cons_append, List.nil_append]
      rw [hsame (isSafe_hexDigit (by omega)), hsame (isSafe_hexDigit (by omega)),
        show plusToBlank '%' = '%' from rfl,
        unquoteBytes_percent (hexValue_hexDigit (by omega)) (hexValue_hexDigit (by omega)), hvalue,
        UInt8.ofNat_toNat]

/-- What was encoded is read back. -/
theorem unquotePlus_quotePlus (text : String) : unquotePlus (quotePlus text) = text.toList := by
  have hbytes (bytes : List UInt8) :
      unquoteBytes ((bytes.flatMap quotePlusByte).map plusToBlank) = bytes := by
    induction bytes with
    | nil => rfl
    | cons b rest ih => rw [List.flatMap_cons, List.map_append, unquoteBytes_quotePlusByte, ih]
  have hascii : ∀ c ∈ (quotePlus text).map plusToBlank, c.toNat < 128 := by
    intro c hc
    obtain ⟨d, hd, hdc⟩ := List.mem_map.mp hc
    rw [← hdc]
    unfold plusToBlank
    split
    · decide
    · rename_i hplus
      have hencoded := isEncoded_quotePlus hd
      unfold isEncoded at hencoded
      cases Bool.or_eq_true_iff.mp hencoded with
      | inl hquoted => exact isQuoted_toNat_lt hquoted
      | inr heq => exact absurd (of_decide_eq_true heq) hplus
  unfold unquotePlus
  rw [show (fun c => if c = '+' then ' ' else c) = plusToBlank from rfl, unquote_ascii hascii]
  unfold quotePlus
  rw [hbytes, decodeReplace_encode]

theorem not_mem_quotePlus {text : String} {c : Char} (hc : isEncoded c = false) :
    c ∉ quotePlus text := by
  intro hmem
  rw [isEncoded_quotePlus hmem] at hc
  cases hc

theorem mem_urlencode {pairs : List (String × String)} {c : Char} (h : c ∈ urlencode pairs) :
    isEncoded c = true ∨ c = '=' ∨ c = '&' := by
  have hone {pair : String × String} (h : c ∈ quotePlus pair.1 ++ '=' :: quotePlus pair.2) :
      isEncoded c = true ∨ c = '=' ∨ c = '&' := by
    rw [List.mem_append, List.mem_cons] at h
    rcases h with hname | heq | hvalue
    · exact .inl (isEncoded_quotePlus hname)
    · exact .inr (.inl heq)
    · exact .inl (isEncoded_quotePlus hvalue)
  unfold urlencode at h
  induction pairs with
  | nil => cases h
  | cons pair rest ih =>
    cases rest with
    | nil => exact hone (by simpa using h)
    | cons next more =>
      rw [List.map_cons, List.map_cons, List.intercalate_cons_cons, List.mem_append,
        List.mem_append] at h
      rcases h with (hfirst | hseparator) | hrest
      · exact hone hfirst
      · exact .inr (.inr (List.mem_singleton.mp hseparator))
      · exact ih (by rw [List.map_cons]; exact hrest)

/-- `parse_qsl` undoes `urlencode`. -/
theorem parseAll_urlencode (pairs : List (String × String)) :
    parseAll (urlencode pairs) = pairs := by
  cases pairs with
  | nil => rfl
  | cons pair rest =>
    let write (pair : String × String) : List Char := quotePlus pair.1 ++ '=' :: quotePlus pair.2
    have hne (other : String × String) : write other ≠ [] :=
      List.append_ne_nil_of_right_ne_nil _ (List.cons_ne_nil _ _)
    have hsplit : (urlencode (pair :: rest)).splitOn '&' = (pair :: rest).map write := by
      refine List.splitOn_intercalate _ (fun text htext => ?_) (List.cons_ne_nil _ _)
      obtain ⟨other, -, hother⟩ := List.mem_map.mp htext
      rw [← hother, List.mem_append, List.mem_cons]
      rintro (hname | heq | hvalue)
      · exact not_mem_quotePlus (by decide) hname
      · exact absurd heq (by decide)
      · exact not_mem_quotePlus (by decide) hvalue
    have hread (other : String × String) : readField (write other) = other := by
      have hname : ∀ c ∈ quotePlus other.1, decide (c ≠ '=') = true := fun c hc =>
        decide_eq_true fun heq => not_mem_quotePlus (by decide) (heq ▸ hc)
      unfold readField
      rw [List.takeWhile_append_of_pos hname, List.dropWhile_append_of_pos hname,
        List.takeWhile_cons_of_neg (by simp),
        List.dropWhile_cons_of_neg (by simp), List.append_nil, List.tail_cons,
        unquotePlus_quotePlus,
        unquotePlus_quotePlus, String.ofList_toList, String.ofList_toList]
    unfold parseAll
    rw [hsplit, List.filter_eq_self.mpr, List.map_map]
    · conv_rhs => rw [← List.map_id (pair :: rest)]
      exact List.map_congr_left fun other _ => hread other
    · intro text htext
      obtain ⟨other, -, hother⟩ := List.mem_map.mp htext
      exact decide_eq_true (hother ▸ hne other)

end Encode

end QueryString

end Lib
