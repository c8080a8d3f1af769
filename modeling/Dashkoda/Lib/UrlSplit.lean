import Mathlib.Data.List.DropRight
import Mathlib.Tactic.ByContra

/-!
# Splitting a URL

`urlsplit` takes the scheme, the network location, the query and the fragment off a URL and leaves
the path.  Texts are lists of code points here.
-/

namespace Lib

/-- What `urlsplit` asks about a network location: whether its brackets hold an address and no
character of it becomes a delimiter under normalisation.  A plain host name is accepted. -/
structure NetlocCheck where
  accepts : List Char → Bool
  plain : ∀ netloc : List Char, (∀ c ∈ netloc, c.isAlphanum ∨ c = '.' ∨ c = '-') →
    accepts netloc = true

structure SplitUrl where
  scheme : List Char
  netloc : List Char
  path : List Char
  query : List Char
  fragment : List Char
  deriving DecidableEq

namespace Url

/-- Dropped at the start of a URL. -/
def isControlOrSpace (c : Char) : Bool := c.toNat ≤ 32

/-- Dropped wherever it stands. -/
def isUnsafe (c : Char) : Bool := c = '\t' || c = '\r' || c = '\n'

def isSchemeChar (c : Char) : Bool := c.isAlphanum || c = '+' || c = '-' || c = '.'

def isDelimiter (c : Char) : Bool := c = '/' || c = '?' || c = '#'

/-- A URL without the characters that are dropped wherever they stand. -/
def kept (url : List Char) : List Char := url.filter (!isUnsafe ·)

/-- The scheme in lower case, and what follows its colon. -/
def splitScheme (url : List Char) : List Char × List Char :=
  match url.takeWhile (· ≠ ':'), url.dropWhile (· ≠ ':') with
  | c :: scheme, _ :: rest =>
    if c.isAlpha && (c :: scheme).all isSchemeChar then ((c :: scheme).map Char.toLower, rest)
    else ([], url)
  | _, _ => ([], url)

/-- The network location after two slashes, and what follows it. -/
def splitNetloc : List Char → List Char × List Char
  | '/' :: '/' :: rest => (rest.takeWhile (!isDelimiter ·), rest.dropWhile (!isDelimiter ·))
  | url => ([], url)

/-- `url.split(delimiter, 1)`, the second part empty where there is no delimiter. -/
def partition (delimiter : Char) (url : List Char) : List Char × List Char :=
  (url.takeWhile (· ≠ delimiter), (url.dropWhile (· ≠ delimiter)).tail)

/-- `urlsplit(url)`; `none` is the `ValueError`. -/
def urlsplit (check : NetlocCheck) (url : List Char) : Option SplitUrl :=
  let url := kept (url.dropWhile isControlOrSpace)
  let (scheme, url) := splitScheme url
  let (netloc, url) := splitNetloc url
  if netloc ≠ [] ∧ check.accepts netloc = false then none
  else
    let (url, fragment) := partition '#' url
    let (path, query) := partition '?' url
    some { scheme, netloc, path, query, fragment }

/-! ## The path of a URL -/

/-- What stands before the query and the fragment. -/
def beforeQuery (url : List Char) : List Char := (url.takeWhile (· ≠ '#')).takeWhile (· ≠ '?')

/-- What is left to do once the scheme is off: the location and the path. -/
def locate (check : NetlocCheck) (url : List Char) : Option (List Char × List Char) :=
  let located := splitNetloc url
  if located.1 ≠ [] ∧ check.accepts located.1 = false then none
  else some (located.1, beforeQuery located.2)

theorem urlsplit_locate (check : NetlocCheck) (url : List Char) :
    (urlsplit check url).map (fun parts => (parts.netloc, parts.path)) =
      locate check (splitScheme (kept (url.dropWhile isControlOrSpace))).2 := by
  unfold urlsplit locate
  simp only
  split
  · rfl
  · rfl

theorem kept_append (a b : List Char) : kept (a ++ b) = kept a ++ kept b := List.filter_append ..

theorem kept_cons_of_safe {c : Char} (rest : List Char) (hc : isUnsafe c = false) :
    kept (c :: rest) = c :: kept rest := by
  unfold kept
  rw [List.filter_cons_of_pos (by rw [hc]; rfl)]

theorem mem_kept {c : Char} {url : List Char} : c ∈ kept url ↔ c ∈ url ∧ isUnsafe c = false := by
  unfold kept
  rw [List.mem_filter]
  simp

theorem kept_eq_self {url : List Char} (h : ∀ c ∈ url, isUnsafe c = false) : kept url = url := by
  apply List.filter_eq_self.mpr
  intro c hc
  rw [h c hc]
  rfl

/-- A URL that starts with a slash has no scheme. -/
theorem splitScheme_slash (rest : List Char) : (splitScheme ('/' :: rest)).2 = '/' :: rest := by
  unfold splitScheme
  rw [List.takeWhile_cons_of_pos (by decide), List.dropWhile_cons_of_pos (by decide)]
  cases rest.dropWhile (· ≠ ':') with
  | nil => rfl
  | cons c after => rfl

theorem splitScheme_https (rest : List Char) :
    (splitScheme (['h', 't', 't', 'p', 's', ':'] ++ rest)).2 = rest := by
  unfold splitScheme
  simp [List.takeWhile, List.dropWhile]
  rfl

theorem mem_beforeQuery {c : Char} {url : List Char} (h : c ∈ beforeQuery url) :
    c ∈ url ∧ c ≠ '?' ∧ c ≠ '#' := by
  unfold beforeQuery at h
  have hquestion : c ≠ '?' := by simpa using List.mem_takeWhile_imp h
  have hmem : c ∈ url.takeWhile (· ≠ '#') := (List.takeWhile_subset _) h
  have hhash : c ≠ '#' := by simpa using List.mem_takeWhile_imp hmem
  exact ⟨(List.takeWhile_subset _) hmem, hquestion, hhash⟩

/-- A text without query and fragment is all path. -/
theorem beforeQuery_append {path : List Char} (suffix : List Char)
    (hpath : ∀ c ∈ path, c ≠ '?' ∧ c ≠ '#') :
    beforeQuery (path ++ suffix) = path ++ beforeQuery suffix := by
  unfold beforeQuery
  rw [List.takeWhile_append_of_pos fun c hc => by simpa using (hpath c hc).2,
    List.takeWhile_append_of_pos fun c hc => by simpa using (hpath c hc).1]

theorem beforeQuery_of_path {path : List Char} (hpath : ∀ c ∈ path, c ≠ '?' ∧ c ≠ '#') :
    beforeQuery path = path := by
  have h := beforeQuery_append [] hpath
  rwa [List.append_nil, show beforeQuery [] = [] from rfl, List.append_nil] at h

theorem beforeQuery_sublist (url : List Char) : (beforeQuery url).Sublist url :=
  (List.takeWhile_sublist _).trans (List.takeWhile_sublist _)

theorem splitNetloc_sublist (url : List Char) : (splitNetloc url).2.Sublist url := by
  unfold splitNetloc
  split
  · exact ((List.dropWhile_sublist _).cons _).cons _
  · exact List.Sublist.refl _

theorem splitScheme_sublist (url : List Char) : (splitScheme url).2.Sublist url := by
  unfold splitScheme
  split
  · rename_i c scheme d rest hscheme hrest
    split
    · have hsuffix : (d :: rest).Sublist url := hrest ▸ List.dropWhile_sublist _
      exact (List.sublist_cons_self d rest).trans hsuffix
    · exact List.Sublist.refl _
  · exact List.Sublist.refl _

theorem locate_sublist {check : NetlocCheck} {url : List Char} {located : List Char × List Char}
    (h : locate check url = some located) : located.2.Sublist url := by
  unfold locate at h
  simp only at h
  split at h
  · cases h
  · rw [← Option.some.inj h]
    exact (beforeQuery_sublist _).trans (splitNetloc_sublist url)

/-- A path has no query, no fragment and nothing that is dropped. -/
theorem mem_path {check : NetlocCheck} {url : List Char} {parts : SplitUrl}
    (h : urlsplit check url = some parts) {c : Char} (hc : c ∈ parts.path) :
    (c ≠ '?' ∧ c ≠ '#') ∧ isUnsafe c = false := by
  have hlocated : locate check (splitScheme (kept (url.dropWhile isControlOrSpace))).2 =
      some (parts.netloc, parts.path) := by
    rw [← urlsplit_locate, h]
    rfl
  constructor
  · unfold locate at hlocated
    simp only at hlocated
    split at hlocated
    · cases hlocated
    · have hpath := congrArg Prod.snd (Option.some.inj hlocated)
      simp only at hpath
      rw [← hpath] at hc
      exact (mem_beforeQuery hc).2
  · have hkept := ((locate_sublist hlocated).trans (splitScheme_sublist _)).subset hc
    exact (mem_kept.mp hkept).2

theorem toLower_toLower (c : Char) : c.toLower.toLower = c.toLower := by
  by_cases hupper : c.isUpper = true
  · have hall : ∀ n < 128, (Char.ofNat n).toLower.toLower = (Char.ofNat n).toLower := by decide
    have hlt : c.toNat < 128 := by
      unfold Char.isUpper at hupper
      simp only [decide_eq_true_eq] at hupper
      exact Nat.lt_of_le_of_lt (UInt32.le_iff_toNat_le.mp hupper.2) (by decide)
    have h := hall c.toNat hlt
    rwa [Char.ofNat_toNat] at h
  · have hsame : c.toLower = c := by
      unfold Char.toLower
      unfold Char.isUpper at hupper
      rw [dif_neg]
      simpa using hupper
    rw [hsame, hsame]

/-- A scheme is in lower case. -/
theorem scheme_lower {check : NetlocCheck} {url : List Char} {parts : SplitUrl}
    (h : urlsplit check url = some parts) :
    parts.scheme.map Char.toLower = parts.scheme := by
  have hlower (text : List Char) : (splitScheme text).1.map Char.toLower =
      (splitScheme text).1 := by
    unfold splitScheme
    split
    · split
      · rw [List.map_map]
        exact List.map_congr_left fun c _ => toLower_toLower c
      · rfl
    · rfl
  unfold urlsplit at h
  dsimp only at h
  split at h
  · cases h
  · cases h
    exact hlower _

/-! ## Putting a URL together -/

def marked (mark : Char) (text : List Char) : List Char := if text = [] then [] else mark :: text

/-- `urlunsplit` of parts with a scheme and a location. -/
def urlunsplit (parts : SplitUrl) : List Char :=
  let path := if parts.path ≠ [] ∧ parts.path.head? ≠ some '/' then
    '/' :: parts.path else parts.path
  parts.scheme ++ ':' :: '/' :: '/' ::
    (parts.netloc ++ (path ++ (marked '?' parts.query ++ marked '#' parts.fragment)))

/-- Parts that stand for themselves in a URL. -/
structure WellFormed (parts : SplitUrl) : Prop where
  scheme : parts.scheme = ['h', 't', 't', 'p', 's']
  netloc : parts.netloc ≠ [] ∧ ∀ c ∈ parts.netloc, isDelimiter c = false
  path : (parts.path = [] ∨ parts.path.head? = some '/') ∧ ∀ c ∈ parts.path, c ≠ '?' ∧ c ≠ '#'
  query : ∀ c ∈ parts.query, c ≠ '#'
  safe : ∀ c ∈ parts.netloc ++ (parts.path ++ (parts.query ++ parts.fragment)), isUnsafe c = false

variable {parts : SplitUrl}

theorem mem_marked {mark c : Char} {text : List Char} (h : c ∈ marked mark text) : c = mark ∨
    c ∈ text := by
  unfold marked at h
  split at h
  · cases h
  · exact List.mem_cons.mp h

theorem partition_marked {mark : Char} {before text : List Char} (h : ∀ c ∈ before, c ≠ mark) :
    partition mark (before ++ marked mark text) = (before, text) := by
  have hnot : ∀ c ∈ before, decide (c ≠ mark) = true := fun c hc => decide_eq_true (h c hc)
  unfold partition
  rw [List.takeWhile_append_of_pos hnot, List.dropWhile_append_of_pos hnot]
  unfold marked
  split
  · rename_i hnil
    rw [List.takeWhile_nil, List.dropWhile_nil, List.append_nil, hnil]
    rfl
  · rw [List.takeWhile_cons_of_neg (by simp), List.dropWhile_cons_of_neg (by simp), List.append_nil]
    rfl

theorem WellFormed.urlunsplit_eq (h : WellFormed parts) :
    urlunsplit parts = ['h', 't', 't', 'p', 's', ':'] ++ '/' :: '/' ::
      (parts.netloc ++ (parts.path ++ (marked '?' parts.query ++ marked '#' parts.fragment))) := by
  have hpath : ¬ (parts.path ≠ [] ∧ parts.path.head? ≠ some '/') := by
    rintro ⟨hne, hhead⟩
    cases h.path.1 with
    | inl hnil => exact hne hnil
    | inr hslash => exact hhead hslash
  unfold urlunsplit
  rw [if_neg hpath, h.scheme]
  rfl

/-- Well-formed parts are read off the URL they make. -/
theorem urlsplit_urlunsplit {check : NetlocCheck} (h : WellFormed parts)
    (haccepts : check.accepts parts.netloc = true) :
    urlsplit check (urlunsplit parts) = some parts := by
  have hmem {c : Char} {rest : List Char} (hc : c ∈ parts.netloc ++ (parts.path ++ rest))
      (hrest : c ∈ rest → isUnsafe c = false) : isUnsafe c = false := by
    cases List.mem_append.mp hc with
    | inl hnetloc => exact h.safe c (List.mem_append_left _ hnetloc)
    | inr hc =>
      cases List.mem_append.mp hc with
      | inl hpath => exact h.safe c (List.mem_append_right _ (List.mem_append_left _ hpath))
      | inr hc => exact hrest hc
  have hsafe : ∀ c ∈ urlunsplit parts, isUnsafe c = false := by
    intro c hc
    have hslash : c = '/' → isUnsafe c = false := fun heq => by rw [heq]; rfl
    rw [h.urlunsplit_eq] at hc
    cases List.mem_append.mp hc with
    | inl hscheme =>
      have hall : (['h', 't', 't', 'p', 's', ':'].all fun c => isUnsafe c = false) =
        true := by decide
      exact of_decide_eq_true (List.all_eq_true.mp hall c hscheme)
    | inr hc =>
      refine (List.mem_cons.mp hc).elim hslash fun hc => (List.mem_cons.mp hc).elim hslash fun hc =>
        hmem hc fun hc => ?_
      cases List.mem_append.mp hc with
      | inl hquery =>
        cases mem_marked hquery with
        | inl heq => rw [heq]; rfl
        | inr hc => exact h.safe c (by simp [hc])
      | inr hfragment =>
        cases mem_marked hfragment with
        | inl heq => rw [heq]; rfl
        | inr hc => exact h.safe c (by simp [hc])
  have hkept : kept ((urlunsplit parts).dropWhile isControlOrSpace) = urlunsplit parts := by
    have hstart : (urlunsplit parts).dropWhile isControlOrSpace = urlunsplit parts := by
      rw [h.urlunsplit_eq]
      exact List.dropWhile_cons_of_neg (by decide)
    rw [hstart, kept_eq_self hsafe]
  have hscheme : splitScheme (urlunsplit parts) = (['h', 't', 't', 'p', 's'], '/' :: '/' ::
      (parts.netloc ++ (parts.path ++ (marked '?' parts.query ++ marked '#' parts.fragment)))) := by
    rw [h.urlunsplit_eq]
    unfold splitScheme
    simp [List.takeWhile, List.dropWhile]
    decide
  have hnetloc (tail : List Char) (htail : tail.head?.any isDelimiter = true ∨ tail = []) :
      splitNetloc ('/' :: '/' :: (parts.netloc ++ tail)) = (parts.netloc, tail) := by
    have hnot : ∀ c ∈ parts.netloc, (!isDelimiter c) = true := fun c hc => by
      rw [h.netloc.2 c hc]; rfl
    show ((parts.netloc ++ tail).takeWhile (!isDelimiter ·),
      (parts.netloc ++ tail).dropWhile (!isDelimiter ·)) = _
    rw [List.takeWhile_append_of_pos hnot, List.dropWhile_append_of_pos hnot]
    cases tail with
    | nil => rw [List.takeWhile_nil, List.append_nil, List.dropWhile_nil]
    | cons c rest =>
      have hc : isDelimiter c = true := by simpa using htail
      rw [List.takeWhile_cons_of_neg (by simp [hc]), List.dropWhile_cons_of_neg (by simp [hc]),
        List.append_nil]
  have hfragment : partition '#'
      (parts.path ++ (marked '?' parts.query ++ marked '#' parts.fragment)) =
      (parts.path ++ marked '?' parts.query, parts.fragment) := by
    have hnot : ∀ c ∈ parts.path ++ marked '?' parts.query, c ≠ '#' := by
      intro c hc
      cases List.mem_append.mp hc with
      | inl hpath => exact (h.path.2 c hpath).2
      | inr hquery =>
        cases mem_marked hquery with
        | inl heq => rw [heq]; decide
        | inr hquery => exact h.query c hquery
    rw [← List.append_assoc, partition_marked hnot]
  have hquery : partition '?' (parts.path ++ marked '?' parts.query) = (parts.path, parts.query) :=
    partition_marked fun c hc => (h.path.2 c hc).1
  have htail : (parts.path ++ (marked '?' parts.query ++ marked '#' parts.fragment)).head?.any
      isDelimiter = true ∨
      parts.path ++ (marked '?' parts.query ++ marked '#' parts.fragment) = [] := by
    cases h.path.1 with
    | inr hslash =>
      refine .inl ?_
      rw [List.head?_append, hslash]
      rfl
    | inl hnil =>
      rw [hnil, List.nil_append]
      unfold marked
      split
      · split
        · exact .inr rfl
        · exact .inl rfl
      · exact .inl rfl
  unfold urlsplit
  dsimp only
  rw [hkept, hscheme]
  dsimp only
  rw [hnetloc _ htail]
  dsimp only
  rw [if_neg (by rw [haccepts]; simp), hfragment]
  dsimp only
  rw [hquery]
  exact congrArg some (by rw [← h.scheme])

theorem beforeQuery_head {tail : List Char} (h : tail = [] ∨ tail.head?.any isDelimiter = true) :
    beforeQuery tail = [] ∨ (beforeQuery tail).head? = some '/' := by
  cases tail with
  | nil => exact .inl rfl
  | cons c more =>
    have hc : isDelimiter c = true := by simpa using h
    unfold beforeQuery
    by_cases hhash : c = '#'
    · rw [hhash, List.takeWhile_cons_of_neg (by decide)]
      exact .inl rfl
    · rw [List.takeWhile_cons_of_pos (by simpa using hhash)]
      by_cases hquestion : c = '?'
      · rw [hquestion, List.takeWhile_cons_of_neg (by decide)]
        exact .inl rfl
      · rw [List.takeWhile_cons_of_pos (by simpa using hquestion)]
        have hslash : c = '/' := by simpa [isDelimiter, hquestion, hhash] using hc
        rw [hslash]
        exact .inr rfl

/-- A location ends where the path, the query or the fragment begins. -/
theorem splitNetloc_parts {url netloc tail : List Char} (h : splitNetloc url = (netloc, tail))
    (hnetloc : netloc ≠ []) :
    (tail = [] ∨ tail.head?.any isDelimiter = true) ∧ ∀ c ∈ netloc, isDelimiter c = false := by
  unfold splitNetloc at h
  split at h
  · rename_i located
    cases h
    refine ⟨?_, fun c hc => by simpa using List.mem_takeWhile_imp hc⟩
    have hhead := List.head?_dropWhile_not (fun c => !isDelimiter c) located
    cases hdrop : located.dropWhile (!isDelimiter ·) with
    | nil => exact .inl rfl
    | cons c more =>
      rw [hdrop] at hhead
      exact .inr (by simpa using hhead)
  · cases h
    exact absurd rfl hnetloc

theorem splitNetloc_front {url : List Char} {c : Char} (h : c ∈ (splitNetloc url).1) : c ∈ url := by
  unfold splitNetloc at h
  split at h
  · exact List.mem_cons_of_mem _ (List.mem_cons_of_mem _ ((List.takeWhile_subset _) h))
  · cases h

/-- The parts of a URL with a location stand for themselves. -/
theorem wellFormed_of_urlsplit {check : NetlocCheck} {url : List Char}
    (h : urlsplit check url = some parts) (hscheme : parts.scheme = ['h', 't', 't', 'p', 's'])
    (hnetloc : parts.netloc ≠ []) :
    WellFormed parts ∧ check.accepts parts.netloc = true := by
  unfold urlsplit at h
  dsimp only at h
  split at h
  · cases h
  · rename_i haccepted
    cases h
    -- every part is a piece of what is kept of the URL
    have hsafe : ∀ c ∈ (splitScheme (kept (url.dropWhile isControlOrSpace))).2,
        isUnsafe c = false :=
      fun c hc => (mem_kept.mp ((splitScheme_sublist _).subset hc)).2
    dsimp only at hnetloc haccepted ⊢
    generalize (splitScheme (kept (url.dropWhile isControlOrSpace))).2 =
      rest at hnetloc haccepted hsafe ⊢
    have haccepts : check.accepts (splitNetloc rest).1 = true := by
      by_contra hnot
      exact haccepted ⟨hnetloc, by simpa using hnot⟩
    obtain ⟨htail, hhost⟩ := splitNetloc_parts rfl hnetloc
    have hpart {c : Char} (hc : c ∈ (splitNetloc rest).2) : isUnsafe c = false :=
      hsafe c ((splitNetloc_sublist rest).subset hc)
    have hfront {c : Char} (hc : c ∈ (splitNetloc rest).1) : isUnsafe c = false :=
      hsafe c (splitNetloc_front hc)
    have hcut {c mark : Char} {text : List Char}
        (hc : c ∈ (text.dropWhile (· ≠ mark)).tail) : c ∈ text :=
      (List.dropWhile_subset _) (List.mem_of_mem_tail hc)
    refine ⟨⟨hscheme, ⟨hnetloc, hhost⟩, ⟨?_, ?_⟩, ?_, ?_⟩, haccepts⟩
    · exact beforeQuery_head htail
    · exact fun c hc => (mem_beforeQuery hc).2
    · intro c hc
      have hbefore : c ∈ (splitNetloc rest).2.takeWhile (· ≠ '#') := hcut hc
      simpa using List.mem_takeWhile_imp hbefore
    · intro c hc
      cases List.mem_append.mp hc with
      | inl hc => exact hfront hc
      | inr hc =>
        cases List.mem_append.mp hc with
        | inl hc => exact hpart (mem_beforeQuery hc).1
        | inr hc =>
          cases List.mem_append.mp hc with
          | inl hc => exact hpart ((List.takeWhile_subset _) (hcut hc))
          | inr hc => exact hpart (hcut hc)

end Url

end Lib
