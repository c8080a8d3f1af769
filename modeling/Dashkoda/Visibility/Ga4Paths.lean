import Dashkoda.Lib.PyText
import Dashkoda.Lib.UrlSplit

/-!
# One canonical page path

Neither the host, the query, the fragment nor a trailing slash is part of a page's identity, and the
canonical path is what is left.  Texts are lists of code points here.
-/

open Lib

namespace Dashkoda.Visibility

/-- What an unusable input canonicalises to. -/
def UNKNOWN : List Char := []

/-- The one path whose trailing slash is the path. -/
def ROOT : List Char := ['/']

/-- Whether `//…` names a host: its first segment has a dot. -/
def isSchemeRelative : List Char → Bool
  | '/' :: '/' :: rest => (rest.takeWhile (· ≠ '/')).contains '.'
  | _ => false

def startsWithTwoSlashes : List Char → Bool
  | '/' :: '/' :: _ => true
  | _ => false

/-- What is handed to `urlsplit`. -/
def prepared (raw : List Char) : List Char :=
  if isSchemeRelative raw then ['h', 't', 't', 'p', 's', ':'] ++ raw
  else if startsWithTwoSlashes raw then '/' :: raw.dropWhile (· = '/')
  else raw

/-- `"//" in path` -/
def hasTwoSlashes : List Char → Bool
  | [] => false
  | c :: rest => startsWithTwoSlashes (c :: rest) || hasTwoSlashes rest

/-- `while "//" in path: path = path.replace("//", "/")` -/
def collapseLoop : Nat → List Char → List Char
  | 0, path => path
  | fuel + 1, path =>
    if hasTwoSlashes path then collapseLoop fuel
      (PyText.replaceChars ['/', '/'] ['/'] 0 path) else path

/-- Every turn of the loop shortens the path, so its length is enough. -/
def collapsed (path : List Char) : List Char := collapseLoop path.length path

/-- Repeated separators collapsed, the trailing one dropped. -/
def finished (path : List Char) : List Char :=
  let path := collapsed path
  if path.length > 1 then
    if path.rdropWhile (· = '/') = [] then ROOT else path.rdropWhile (· = '/')
  else path

def named (netloc path : List Char) : List Char :=
  if path = [] then if netloc ≠ [] then ROOT else UNKNOWN
  else finished (if path.head? = some '/' then path else '/' :: path)

/-- `canonical_path(value)`; `none` is the `ValueError` of `urlsplit`. -/
def canonicalPath (check : NetlocCheck) (value : List Char) : Option (List Char) :=
  if value = [] then some UNKNOWN
  else
    let raw := PyText.stripChars value
    if raw = [] then some UNKNOWN
    else (Url.urlsplit check (prepared raw)).map fun parts => named parts.netloc parts.path

/-- Whether a canonical path sits under a section, segment by segment. -/
def isUnder (check : NetlocCheck) (path sectionPath : List Char) : Option Bool :=
  if path = [] ∨ sectionPath = [] then some false
  else (canonicalPath check sectionPath).map fun sectionPath =>
    path = sectionPath || (sectionPath ++ ['/']).isPrefixOf path

/-! ## Collapsing -/

def squeeze : List Char → List Char
  | [] => []
  | c :: rest => if c = '/' ∧ rest.head? = some '/' then squeeze rest else c :: squeeze rest

/-- The characters of the segments. -/
def letters (path : List Char) : List Char := path.filter (· ≠ '/')

theorem head?_squeeze (path : List Char) : (squeeze path).head? = path.head? := by
  induction path with
  | nil => rfl
  | cons c rest ih =>
    unfold squeeze
    split
    · rename_i h
      rw [ih, h.2, h.1]
      rfl
    · rfl

theorem letters_squeeze (path : List Char) : letters (squeeze path) = letters path := by
  induction path with
  | nil => rfl
  | cons c rest ih =>
    unfold squeeze
    split
    · rename_i h
      rw [ih, h.1]
      rfl
    · show (c :: squeeze rest).filter _ = (c :: rest).filter _
      rw [List.filter_cons, List.filter_cons]
      show (if _ then c :: letters (squeeze rest) else letters (squeeze rest)) = _
      rw [ih]
      rfl

theorem mem_squeeze {path : List Char} {c : Char} (h : c ∈ squeeze path) : c ∈ path := by
  induction path with
  | nil => exact h
  | cons d rest ih =>
    unfold squeeze at h
    split at h
    · exact List.mem_cons_of_mem _ (ih h)
    · cases List.mem_cons.mp h with
      | inl heq => exact heq ▸ List.mem_cons_self
      | inr hrest => exact List.mem_cons_of_mem _ (ih hrest)

theorem startsWithTwoSlashes_iff {path : List Char} :
    startsWithTwoSlashes path = true ↔ path.head? = some '/' ∧ path.tail.head? = some '/' := by
  constructor
  · intro h
    unfold startsWithTwoSlashes at h
    split at h
    · exact ⟨rfl, rfl⟩
    · cases h
  · intro ⟨hfirst, hsecond⟩
    match path, hfirst, hsecond with
    | _ :: _ :: _, rfl, rfl => rfl

theorem exists_of_startsWithTwoSlashes {path : List Char} (h : startsWithTwoSlashes path = true) :
    ∃ rest, path = '/' :: '/' :: rest := by
  unfold startsWithTwoSlashes at h
  split at h
  · exact ⟨_, rfl⟩
  · cases h

theorem hasTwoSlashes_squeeze (path : List Char) : hasTwoSlashes (squeeze path) = false := by
  induction path with
  | nil => rfl
  | cons c rest ih =>
    unfold squeeze
    split
    · exact ih
    · rename_i h
      show (startsWithTwoSlashes (c :: squeeze rest) || hasTwoSlashes (squeeze rest)) = false
      rw [ih, Bool.or_false]
      cases htwo : startsWithTwoSlashes (c :: squeeze rest) with
      | false => rfl
      | true =>
        have hstarts := startsWithTwoSlashes_iff.mp htwo
        exact absurd ⟨Option.some.inj hstarts.1, (head?_squeeze rest) ▸ hstarts.2⟩ h

theorem squeeze_of_single {path : List Char} (h : hasTwoSlashes path = false) :
    squeeze path = path := by
  induction path with
  | nil => rfl
  | cons c rest ih =>
    have hsplit : (startsWithTwoSlashes (c :: rest) || hasTwoSlashes rest) = false := h
    rw [Bool.or_eq_false_iff] at hsplit
    unfold squeeze
    rw [if_neg, ih hsplit.2]
    intro htwo
    have : startsWithTwoSlashes (c :: rest) = true :=
      startsWithTwoSlashes_iff.mpr ⟨congrArg some htwo.1, htwo.2⟩
    rw [this] at hsplit
    cases hsplit.1

/-- One turn of the loop. -/
def halved (path : List Char) : List Char := PyText.replaceChars ['/', '/'] ['/'] 0 path

theorem halved_two (rest : List Char) : halved ('/' :: '/' :: rest) = '/' :: halved rest := rfl

theorem halved_cons {c : Char} {rest : List Char} (h : startsWithTwoSlashes (c :: rest) = false) :
    halved (c :: rest) = c :: halved rest := by
  have hnot : List.isPrefixOf ['/', '/'] (c :: rest) = false := by
    cases htwo : List.isPrefixOf ['/', '/'] (c :: rest) with
    | false => rfl
    | true =>
      obtain ⟨more, hmore⟩ := List.isPrefixOf_iff_prefix.mp htwo
      rw [← hmore] at h
      cases h
  show (if List.isPrefixOf ['/', '/'] (c :: rest) = true then _ else c :: halved rest) = _
  rw [hnot]
  rfl

/-- A path starts with two slashes or is read one character further. -/
theorem halved_induction {motive : List Char → Prop} (nil : motive [])
    (two : ∀ rest, motive rest → motive ('/' :: '/' :: rest))
    (cons : ∀ c rest, startsWithTwoSlashes (c :: rest) = false → motive rest → motive (c :: rest)) :
    ∀ path, motive path := by
  intro path
  induction hlen : path.length using Nat.strongRecOn generalizing path with
  | ind n ih =>
    match path with
    | [] => exact nil
    | c :: rest =>
      cases htwo : startsWithTwoSlashes (c :: rest) with
      | false => exact cons c rest htwo (ih rest.length (hlen ▸ Nat.lt_succ_self _) rest rfl)
      | true =>
        obtain ⟨more, hmore⟩ := exists_of_startsWithTwoSlashes htwo
        have hshort : more.length < n := by
          rw [← hlen, hmore]
          simp only [List.length_cons]
          omega
        rw [hmore]
        exact two more (ih more.length hshort more rfl)

theorem head?_halved (path : List Char) : (halved path).head? = path.head? := by
  induction path using halved_induction with
  | nil => rfl
  | two rest => rfl
  | cons c rest h => rw [halved_cons h]; rfl

theorem squeeze_halved (path : List Char) : squeeze (halved path) = squeeze path := by
  induction path using halved_induction with
  | nil => rfl
  | two rest ih =>
    rw [halved_two]
    have houter : squeeze ('/' :: '/' :: rest) = squeeze ('/' :: rest) := if_pos ⟨rfl, rfl⟩
    rw [houter]
    unfold squeeze
    rw [head?_halved, ih]
  | cons c rest h ih =>
    rw [halved_cons h]
    unfold squeeze
    rw [head?_halved, ih]

theorem length_halved_le (path : List Char) : (halved path).length ≤ path.length := by
  induction path using halved_induction with
  | nil => exact Nat.le_refl 0
  | two rest ih =>
    rw [halved_two]
    simp only [List.length_cons]
    omega
  | cons c rest h ih =>
    rw [halved_cons h]
    simp only [List.length_cons]
    omega

theorem length_halved_lt {path : List Char} (h : hasTwoSlashes path = true) :
    (halved path).length < path.length := by
  induction path using halved_induction with
  | nil => cases h
  | two rest ih =>
    have := length_halved_le rest
    rw [halved_two]
    simp only [List.length_cons]
    omega
  | cons c rest hone ih =>
    have hrest : hasTwoSlashes rest = true := by
      have hsplit : (startsWithTwoSlashes (c :: rest) || hasTwoSlashes rest) = true := h
      rwa [hone, Bool.false_or] at hsplit
    have := ih hrest
    rw [halved_cons hone]
    simp only [List.length_cons]
    omega

theorem collapseLoop_eq {fuel : Nat} {path : List Char} (h : path.length ≤ fuel) :
    collapseLoop fuel path = squeeze path := by
  induction fuel generalizing path with
  | zero =>
    rw [List.length_eq_zero_iff.mp (Nat.le_zero.mp h)]
    rfl
  | succ fuel ih =>
    unfold collapseLoop
    cases htwo : hasTwoSlashes path with
    | true =>
      have hlt := length_halved_lt htwo
      have hshort : (halved path).length ≤ fuel := by omega
      exact (ih hshort).trans (squeeze_halved path)
    | false => exact (squeeze_of_single htwo).symm

/-- The loop ends, with every run of slashes as one. -/
theorem collapsed_eq (path : List Char) : collapsed path = squeeze path :=
  collapseLoop_eq (Nat.le_refl _)

/-! ## Finished paths -/

def trimmed (path : List Char) : List Char := (squeeze path).rdropWhile (· = '/')

theorem finished_eq {path : List Char} (h : path.head? = some '/') :
    finished path = if trimmed path = [] then ROOT else trimmed path := by
  have hhead : (squeeze path).head? = some '/' := (head?_squeeze path).trans h
  show (if (collapsed path).length > 1 then _ else collapsed path) = _
  rw [collapsed_eq]
  by_cases hlong : (squeeze path).length > 1
  · rw [if_pos hlong]
    rfl
  · rw [if_neg hlong]
    have hroot : squeeze path = ROOT := by
      match hsq : squeeze path, hhead with
      | c :: rest, hc =>
        rw [hsq, List.length_cons] at hlong
        have hrest : rest = [] := List.length_eq_zero_iff.mp (by omega)
        rw [Option.some.inj hc, hrest]
        rfl
    have hnil : trimmed path = [] := by
      unfold trimmed
      rw [hroot]
      rfl
    rw [if_pos hnil, hroot]

theorem letters_append (a b : List Char) : letters (a ++ b) = letters a ++ letters b :=
  List.filter_append ..

theorem letters_eq_nil {path : List Char} (h : ∀ c ∈ path, c = '/') : letters path = [] := by
  apply List.filter_eq_nil_iff.mpr
  intro c hc
  simp [h c hc]

theorem letters_eq_self {text : List Char} (h : ∀ c ∈ text, c ≠ '/') : letters text = text := by
  apply List.filter_eq_self.mpr
  intro c hc
  simp [h c hc]

theorem letters_trimmed (path : List Char) : letters (trimmed path) = letters path := by
  have hsplit : trimmed path ++ (squeeze path).rtakeWhile (· = '/') = squeeze path :=
    List.rdropWhile_append_rtakeWhile
  have hslashes : letters ((squeeze path).rtakeWhile (· = '/')) = [] :=
    letters_eq_nil fun c hc => by simpa using List.mem_rtakeWhile_imp hc
  have hletters : letters (squeeze path) = letters (trimmed path) := by
    rw [← hsplit, letters_append, hslashes, List.append_nil]
  rw [← hletters, letters_squeeze]

theorem letters_finished {path : List Char} (h : path.head? = some '/') :
    letters (finished path) = letters path := by
  have htrimmed := letters_trimmed path
  rw [finished_eq h]
  split
  · rename_i hnil
    rw [hnil] at htrimmed
    exact htrimmed
  · exact htrimmed

theorem finished_ne_nil {path : List Char} (h : path.head? = some '/') : finished path ≠ [] := by
  rw [finished_eq h]
  split
  · exact List.cons_ne_nil _ _
  · rename_i hne
    exact hne

/-- Leading slashes beyond the first do not count. -/
theorem finished_slash {rest : List Char} (h : rest.head? = some '/') :
    finished ('/' :: rest) = finished rest := by
  have hsame : squeeze ('/' :: rest) = squeeze rest := if_pos ⟨rfl, h⟩
  rw [finished_eq h, finished_eq (rfl : ('/' :: rest).head? = some '/')]
  unfold trimmed
  rw [hsame]

theorem squeeze_append_slash (path : List Char) :
    squeeze (path ++ ['/']) = squeeze path ∨ squeeze (path ++ ['/']) = squeeze path ++ ['/'] := by
  have hcons (c : Char) (rest : List Char) :
      squeeze (c :: rest) = if c = '/' ∧ rest.head? = some '/' then squeeze rest else
        c :: squeeze rest := rfl
  induction path with
  | nil => exact Or.inr rfl
  | cons c rest ih =>
    rw [List.cons_append, hcons c (rest ++ ['/']), hcons c rest]
    cases rest with
    | nil =>
      by_cases hc : c = '/'
      · exact Or.inl (by simp [hc, squeeze])
      · exact Or.inr (by simp [hc, squeeze])
    | cons d more =>
      rw [show (d :: more ++ ['/']).head? = (d :: more).head? from rfl]
      by_cases htwo : c = '/' ∧ (d :: more).head? = some '/'
      · rw [if_pos htwo, if_pos htwo]
        exact ih
      · rw [if_neg htwo, if_neg htwo]
        cases ih with
        | inl hsame => exact Or.inl (congrArg (c :: ·) hsame)
        | inr hmore => exact Or.inr (congrArg (c :: ·) hmore)

/-- A trailing slash does not count. -/
theorem finished_append_slash {path : List Char} (h : path.head? = some '/') :
    finished (path ++ ['/']) = finished path := by
  have hhead : (path ++ ['/']).head? = some '/' := by
    rw [List.head?_append, h]
    rfl
  have htrimmed : trimmed (path ++ ['/']) = trimmed path := by
    unfold trimmed
    cases squeeze_append_slash path with
    | inl hsame => rw [hsame]
    | inr hmore => rw [hmore, List.rdropWhile_concat_pos _ _ _ (by decide)]
  rw [finished_eq hhead, finished_eq h, htrimmed]

/-! ## What a canonical path looks like -/

structure Canonical (path : List Char) : Prop where
  rooted : path.head? = some '/'
  single : ¬ ['/', '/'] <:+: path
  bare : ∀ c ∈ path, c ≠ '?' ∧ c ≠ '#'
  unslashed : path = ROOT ∨ path.getLast? ≠ some '/'

/-- The last character of the last segment is a space. -/
def EndsInSpace (path : List Char) : Prop :=
  ∃ c, (letters path).getLast? = some c ∧ PyText.isSpace c = true

theorem hasTwoSlashes_of_infix {path : List Char} (h : ['/', '/'] <:+: path) :
    hasTwoSlashes path = true := by
  obtain ⟨before, after, hpath⟩ := h
  rw [← hpath]
  clear hpath
  induction before with
  | nil => rfl
  | cons c before ih =>
    show (startsWithTwoSlashes _ || hasTwoSlashes (before ++ ['/', '/'] ++ after)) = true
    rw [show hasTwoSlashes (before ++ ['/', '/'] ++ after) = true from ih, Bool.or_true]

theorem mem_finished {path : List Char} (h : path.head? = some '/') {c : Char}
    (hc : c ∈ finished path) :
    c ∈ path := by
  rw [finished_eq h] at hc
  split at hc
  · rw [List.mem_singleton.mp hc]
    exact List.mem_of_mem_head? (Option.mem_def.mpr h)
  · exact mem_squeeze ((List.rdropWhile_prefix _ _).subset hc)

theorem finished_canonical {path : List Char} (h : path.head? = some '/')
    (hbare : ∀ c ∈ path, c ≠ '?' ∧ c ≠ '#') : Canonical (finished path) where
  rooted := by
    rw [finished_eq h]
    split
    · rfl
    · rename_i hne
      obtain ⟨after, hafter⟩ : trimmed path <+: squeeze path := List.rdropWhile_prefix _ _
      have hhead : (squeeze path).head? = some '/' := (head?_squeeze path).trans h
      rw [← hafter, List.head?_append_of_ne_nil _ hne] at hhead
      exact hhead
  single := by
    intro htwo
    rw [finished_eq h] at htwo
    split at htwo
    · have := hasTwoSlashes_of_infix htwo
      cases this
    · have := hasTwoSlashes_of_infix (htwo.trans (List.rdropWhile_prefix _ _).isInfix)
      rw [hasTwoSlashes_squeeze] at this
      cases this
  bare := fun c hc => hbare c (mem_finished h hc)
  unslashed := by
    rw [finished_eq h]
    split
    · exact Or.inl rfl
    · rename_i hne
      right
      have hlast := List.rdropWhile_last_not (· = '/') (squeeze path) hne
      intro hslash
      rw [List.getLast?_eq_getLast_of_ne_nil hne] at hslash
      exact hlast (decide_eq_true (Option.some.inj hslash))

theorem Canonical.startsWithTwoSlashes_eq {path : List Char} (h : Canonical path) :
    startsWithTwoSlashes path = false := by
  cases htwo : startsWithTwoSlashes path with
  | false => rfl
  | true =>
    obtain ⟨rest, hrest⟩ := exists_of_startsWithTwoSlashes htwo
    exact absurd ⟨[], rest, hrest.symm⟩ h.single

/-! ## A text that starts with a slash -/

/-- What `urlsplit` looks at of such a text. -/
def looked (raw : List Char) : List Char :=
  if startsWithTwoSlashes raw && !isSchemeRelative raw then
    Url.kept ('/' :: raw.dropWhile (· = '/'))
  else Url.kept raw

def namedAt (check : NetlocCheck) (url : List Char) : Option (List Char) :=
  (Url.locate check url).map fun located => named located.1 located.2

theorem dropWhile_control_slash (rest : List Char) :
    ('/' :: rest).dropWhile Url.isControlOrSpace = '/' :: rest := rfl

theorem prepared_looked {raw : List Char} (h : raw.head? = some '/') :
    (Url.splitScheme (Url.kept ((prepared raw).dropWhile Url.isControlOrSpace))).2 =
      looked raw := by
  match raw, h with
  | _ :: rest, rfl =>
    have hplain (text : List Char) :
        (Url.splitScheme (Url.kept (('/' :: text).dropWhile Url.isControlOrSpace))).2 =
          Url.kept ('/' :: text) := by
      rw [dropWhile_control_slash, Url.kept_cons_of_safe _ (by decide), Url.splitScheme_slash]
    unfold prepared looked
    cases hscheme : isSchemeRelative ('/' :: rest) with
    | true =>
      rw [if_pos rfl, Bool.not_true, Bool.and_false, if_neg Bool.false_ne_true]
      show (Url.splitScheme (Url.kept (['h', 't', 't', 'p', 's', ':'] ++ '/' :: rest))).2 = _
      rw [Url.kept_append]
      exact Url.splitScheme_https _
    | false =>
      rw [if_neg Bool.false_ne_true, Bool.not_false, Bool.and_true]
      split
      · exact hplain _
      · exact hplain rest

/-- The canonical path of a text that starts with a slash. -/
theorem canonicalPath_slash (check : NetlocCheck) {value : List Char}
    (h : (PyText.stripChars value).head? = some '/') :
    canonicalPath check value = namedAt check (looked (PyText.stripChars value)) := by
  have hne : PyText.stripChars value ≠ [] := by
    intro hnil
    rw [hnil] at h
    cases h
  have hvalue : value ≠ [] := by
    intro hnil
    rw [hnil] at hne
    exact hne rfl
  unfold canonicalPath
  rw [if_neg hvalue]
  simp only
  rw [if_neg hne]
  unfold namedAt
  rw [← prepared_looked h, ← Url.urlsplit_locate, Option.map_map]
  rfl

/-- No location is read at the start: one slash, or more than two. -/
def ReadsAsPath (url : List Char) : Prop :=
  startsWithTwoSlashes url = false ∨ startsWithTwoSlashes url.tail = true

theorem beforeQuery_slash (rest : List Char) : Url.beforeQuery ('/' :: rest) =
    '/' :: Url.beforeQuery rest :=
  show Url.beforeQuery (['/'] ++ rest) = ['/'] ++ Url.beforeQuery rest from
    Url.beforeQuery_append rest (List.forall_mem_singleton.mpr (by decide))

theorem named_slash {path : List Char} (h : path.head? = some '/') :
    named [] path = finished path := by
  unfold named
  rw [if_neg, if_pos h]
  intro hnil
  rw [hnil] at h
  cases h

theorem namedAt_path (check : NetlocCheck) {url : List Char} (h : url.head? = some '/')
    (hpath : ReadsAsPath url) : namedAt check url = some (finished (Url.beforeQuery url)) := by
  match url, h with
  | _ :: rest, rfl =>
    have hnowhere (path : List Char) (hsplit : Url.splitNetloc ('/' :: rest) = ([], '/' :: path)) :
        namedAt check ('/' :: rest) = some (finished (Url.beforeQuery ('/' :: path))) := by
      unfold namedAt Url.locate
      rw [hsplit]
      simp only [ne_eq, not_true_eq_false, false_and, if_false, Option.map_some]
      rw [beforeQuery_slash, named_slash rfl]
    cases hpath with
    | inl hone =>
      apply hnowhere rest
      unfold Url.splitNetloc
      split
      · rename_i more heq
        rw [(List.cons.inj heq).2] at hone
        cases hone
      · rfl
    | inr htwo =>
      obtain ⟨more, hmore⟩ := exists_of_startsWithTwoSlashes htwo
      rw [show rest = '/' :: '/' :: more from hmore] at hnowhere ⊢
      rw [hnowhere more rfl]
      simp only [beforeQuery_slash]
      have hfirst : finished ('/' :: '/' :: '/' :: Url.beforeQuery more) =
          finished ('/' :: '/' :: Url.beforeQuery more) := finished_slash rfl
      exact congrArg some (hfirst.trans (finished_slash rfl)).symm

theorem letters_named_length (netloc path : List Char) :
    (letters (named netloc path)).length ≤ (letters path).length := by
  unfold named
  split
  · rename_i hnil
    split
    · exact Nat.zero_le _
    · exact Nat.zero_le _
  · split
    · rename_i hslash
      rw [letters_finished hslash]
    · rw [letters_finished rfl]
      exact Nat.le_refl _

/-- Where a location is read, its characters are lost. -/
theorem namedAt_host (check : NetlocCheck) {url path : List Char}
    (htwo : startsWithTwoSlashes url = true) (hthree : startsWithTwoSlashes url.tail = false)
    (h : namedAt check url = some path) :
    path = UNKNOWN ∨ (letters path).length < (letters (Url.beforeQuery url)).length := by
  obtain ⟨rest, hrest⟩ := exists_of_startsWithTwoSlashes htwo
  subst hrest
  unfold namedAt Url.locate at h
  simp only at h
  split at h
  · cases h
  · have hpath := Option.some.inj h
    simp only [Url.splitNetloc] at hpath
    cases hn : rest.takeWhile (!Url.isDelimiter ·) with
    | nil =>
      left
      have hdrop : rest.dropWhile (!Url.isDelimiter ·) = rest := by
        have := List.takeWhile_append_dropWhile (p := (!Url.isDelimiter ·)) (l := rest)
        rwa [hn] at this
      have hnothing : Url.beforeQuery rest = [] := by
        cases hrest : rest with
        | nil => rfl
        | cons c more =>
          rw [hrest, List.takeWhile_cons] at hn
          have hdelim : Url.isDelimiter c = true := by
            by_contra hnot
            rw [if_pos (by simpa using hnot)] at hn
            cases hn
          have hslash : c ≠ '/' := by
            intro hc
            rw [hrest, hc] at hthree
            cases hthree
          have : c = '?' ∨ c = '#' := by
            simpa [Url.isDelimiter, hslash] using hdelim
          cases this with
          | inl hc => rw [hc]; simp [Url.beforeQuery]
          | inr hc => rw [hc]; simp [Url.beforeQuery]
      rw [hn, hdrop, hnothing] at hpath
      exact hpath.symm
    | cons c netloc =>
      right
      have hsplit : (c :: netloc) ++ rest.dropWhile (!Url.isDelimiter ·) = rest := by
        rw [← hn]
        exact List.takeWhile_append_dropWhile
      have hplain : ∀ d ∈ c :: netloc, Url.isDelimiter d = false := by
        intro d hd
        rw [← hn] at hd
        simpa using List.mem_takeWhile_imp hd
      have hbefore : Url.beforeQuery rest =
          (c :: netloc) ++ Url.beforeQuery (rest.dropWhile (!Url.isDelimiter ·)) := by
        conv_lhs => rw [← hsplit]
        apply Url.beforeQuery_append
        intro d hd
        have := hplain d hd
        simp [Url.isDelimiter] at this
        exact ⟨this.1.2, this.2⟩
      have hslashless : letters (c :: netloc) = c :: netloc := by
        apply letters_eq_self
        intro d hd
        have := hplain d hd
        simp [Url.isDelimiter] at this
        exact this.1.1
      have hcount : (letters (Url.beforeQuery ('/' :: '/' :: rest))).length =
          (letters (Url.beforeQuery rest)).length := by
        rw [beforeQuery_slash, beforeQuery_slash]
        rfl
      have hshort := letters_named_length (rest.takeWhile (!Url.isDelimiter ·))
        (Url.beforeQuery (rest.dropWhile (!Url.isDelimiter ·)))
      rw [hcount, hbefore, letters_append, hslashless, ← hpath]
      simp only [List.cons_append, List.length_cons, List.length_append]
      omega

/-- A text that starts with a slash keeps its path exactly when no location is read. -/
theorem namedAt_eq_finished_iff (check : NetlocCheck) {url : List Char} (h : url.head? = some '/') :
    namedAt check url = some (finished (Url.beforeQuery url)) ↔ ReadsAsPath url := by
  constructor
  · intro hnamed
    cases htwo : startsWithTwoSlashes url with
    | false => exact Or.inl htwo
    | true =>
      cases hthree : startsWithTwoSlashes url.tail with
      | true => exact Or.inr hthree
      | false =>
        have hhead : (Url.beforeQuery url).head? = some '/' := by
          match url, h with
          | _ :: rest, rfl => rw [beforeQuery_slash]; rfl
        cases namedAt_host check htwo hthree hnamed with
        | inl hnil => exact absurd hnil (finished_ne_nil hhead)
        | inr hlt =>
          rw [letters_finished hhead] at hlt
          exact absurd hlt (Nat.lt_irrefl _)
  · exact namedAt_path check h

/-! ## Canonicalising once more -/

theorem stripChars_slash {text : List Char} (h : text.head? = some '/') :
    PyText.stripChars text = text.rdropWhile PyText.isSpace := by
  match text, h with
  | _ :: rest, rfl => rfl

/-- Spaces at the end of a text, after its last slash, go with the strip. -/
theorem exists_stripped {text : List Char} (h : text.head? = some '/') :
    ∃ spaces, text = PyText.stripChars text ++ spaces ∧ (∀ c ∈ spaces, PyText.isSpace c = true) ∧
      (PyText.stripChars text).head? = some '/' := by
  refine ⟨text.rtakeWhile PyText.isSpace, ?_, fun c hc => List.mem_rtakeWhile_imp hc, ?_⟩
  · rw [stripChars_slash h]
    exact List.rdropWhile_append_rtakeWhile.symm
  · match text, h with
    | _ :: rest, rfl =>
      show (List.rdropWhile PyText.isSpace ('/' :: rest)).head? = some '/'
      have hne : List.rdropWhile PyText.isSpace ('/' :: rest) ≠ [] := by
        intro hnil
        have := List.rdropWhile_eq_nil_iff.mp hnil '/' List.mem_cons_self
        cases this
      obtain ⟨after, hafter⟩ := List.rdropWhile_prefix PyText.isSpace ('/' :: rest)
      have hhead := congrArg List.head? hafter
      rw [List.head?_append_of_ne_nil _ hne] at hhead
      exact hhead

theorem isSpace_ne_slash {c : Char} (h : PyText.isSpace c = true) : c ≠ '/' := by
  intro hc
  rw [hc] at h
  cases h

theorem finished_of_canonical {path : List Char} (h : Canonical path) : finished path = path := by
  have hsingle : hasTwoSlashes path = false := by
    cases htwo : hasTwoSlashes path with
    | false => rfl
    | true =>
      exfalso
      apply h.single
      clear h
      induction path with
      | nil => cases htwo
      | cons c rest ih =>
        cases hfirst : startsWithTwoSlashes (c :: rest) with
        | true =>
          obtain ⟨more, hmore⟩ := exists_of_startsWithTwoSlashes hfirst
          exact ⟨[], more, hmore.symm⟩
        | false =>
          have hrest : hasTwoSlashes rest = true := by
            have hsplit : (startsWithTwoSlashes (c :: rest) || hasTwoSlashes rest) = true := htwo
            rwa [hfirst, Bool.false_or] at hsplit
          exact (ih hrest).trans (List.suffix_cons c rest).isInfix
  rw [finished_eq h.rooted]
  unfold trimmed
  rw [squeeze_of_single hsingle]
  cases h.unslashed with
  | inl hroot =>
    rw [hroot]
    rfl
  | inr hlast =>
    have hself : path.rdropWhile (· = '/') = path := by
      apply List.rdropWhile_eq_self_iff.mpr
      intro hne hslash
      rw [List.getLast?_eq_getLast_of_ne_nil hne] at hlast
      exact hlast (congrArg some (by simpa using hslash))
    rw [hself, if_neg]
    intro hnil
    have := h.rooted
    rw [hnil] at this
    cases this

/-- Away from the root, the last character is one of a segment. -/
theorem Canonical.letters_getLast? {path : List Char} (h : Canonical path) (hroot : path ≠ ROOT) :
    (letters path).getLast? = path.getLast? := by
  have hlast : path.getLast? ≠ some '/' := h.unslashed.resolve_left hroot
  cases hpath : path.getLast? with
  | none =>
    rw [List.getLast?_eq_none_iff.mp hpath]
    rfl
  | some c =>
    obtain ⟨before, hbefore⟩ := List.getLast?_eq_some_iff.mp hpath
    have hc : c ≠ '/' := fun heq => hlast (hpath.trans (congrArg some heq))
    have hone : letters [c] = [c] := letters_eq_self fun d hd => List.mem_singleton.mp hd ▸ hc
    rw [hbefore, letters_append, hone, List.getLast?_concat]

theorem stripChars_of_canonical {path : List Char} (h : Canonical path)
    (hspace : ¬ EndsInSpace path) :
    PyText.stripChars path = path := by
  rw [stripChars_slash h.rooted]
  apply List.rdropWhile_eq_self_iff.mpr
  intro hne hlast
  by_cases hroot : path = ROOT
  · subst hroot
    cases hlast
  · apply hspace
    refine ⟨path.getLast hne, ?_, hlast⟩
    rw [h.letters_getLast? hroot, List.getLast?_eq_getLast_of_ne_nil hne]

/-- A canonical path that does not end in a space is its own canonical path. -/
theorem canonicalPath_of_canonical (check : NetlocCheck) {path : List Char} (h : Canonical path)
    (hsafe : ∀ c ∈ path, Url.isUnsafe c = false) (hspace : ¬ EndsInSpace path) :
    canonicalPath check path = some path := by
  have hstrip := stripChars_of_canonical h hspace
  have hlooked : looked path = path := by
    unfold looked
    rw [h.startsWithTwoSlashes_eq, Bool.false_and, if_neg Bool.false_ne_true,
      Url.kept_eq_self hsafe]
  rw [canonicalPath_slash check (by rw [hstrip]; exact h.rooted), hstrip, hlooked,
    namedAt_path check h.rooted (Or.inl h.startsWithTwoSlashes_eq), Url.beforeQuery_of_path h.bare,
    finished_of_canonical h]

theorem letters_kept_length (text : List Char) :
    (letters (Url.kept text)).length ≤ (letters text).length :=
  (List.Sublist.filter _ List.filter_sublist).length_le

theorem letters_looked (raw : List Char) : letters (looked raw) = letters (Url.kept raw) := by
  unfold looked
  split
  · have hsplit : raw.takeWhile (· = '/') ++ raw.dropWhile (· = '/') = raw :=
      List.takeWhile_append_dropWhile
    have hslashes : letters (Url.kept (raw.takeWhile (· = '/'))) = [] := by
      apply letters_eq_nil
      intro c hc
      simpa using List.mem_takeWhile_imp (Url.mem_kept.mp hc).1
    conv_rhs => rw [← hsplit, Url.kept_append, letters_append, hslashes, List.nil_append]
    rw [Url.kept_cons_of_safe _ (by decide)]
    rfl
  · rfl

/-- No more characters than the text has, spaces at its end apart. -/
theorem letters_canonicalPath_le (check : NetlocCheck) {value path : List Char}
    (hvalue : value.head? = some '/') (h : canonicalPath check value = some path) :
    (letters path).length ≤ (letters (PyText.stripChars value)).length := by
  obtain ⟨spaces, -, -, hhead⟩ := exists_stripped hvalue
  rw [canonicalPath_slash check hhead] at h
  obtain ⟨located, hlocated, hpath⟩ := Option.map_eq_some_iff.mp h
  have hbound : (letters located.2).length ≤ (letters (looked (PyText.stripChars value))).length :=
    (List.Sublist.filter _ (Url.locate_sublist hlocated)).length_le
  rw [letters_looked] at hbound
  have hkept := letters_kept_length (PyText.stripChars value)
  have hnamed := letters_named_length located.1 located.2
  rw [← hpath]
  omega

/-- A canonical path that ends in a space loses it. -/
theorem canonicalPath_of_endsInSpace (check : NetlocCheck) {path : List Char} (h : Canonical path)
    (hspace : EndsInSpace path) : canonicalPath check path ≠ some path := by
  intro hsame
  obtain ⟨spaces, hsplit, hspaces, -⟩ := exists_stripped h.rooted
  have hle := letters_canonicalPath_le check h.rooted hsame
  obtain ⟨c, hlast, hc⟩ := hspace
  have hroot : path ≠ ROOT := by
    intro hroot
    rw [hroot] at hlast
    cases hlast
  rw [h.letters_getLast? hroot] at hlast
  have hletters : letters spaces = spaces :=
    letters_eq_self fun d hd => isSpace_ne_slash (hspaces d hd)
  have hcount := congrArg (fun text => (letters text).length) hsplit
  simp only [letters_append, List.length_append, hletters] at hcount
  cases spaces with
  | nil =>
    -- nothing was stripped, but the last character is a space
    rw [List.append_nil] at hsplit
    rw [hsplit, stripChars_slash h.rooted] at hlast
    have hne : path.rdropWhile PyText.isSpace ≠ [] := by
      intro hnil
      rw [hnil] at hlast
      cases hlast
    rw [List.getLast?_eq_getLast_of_ne_nil hne] at hlast
    exact List.rdropWhile_last_not _ _ hne (Option.some.inj hlast ▸ hc)
  | cons d more =>
    simp only [List.length_cons] at hcount
    omega

theorem root_canonical : Canonical ROOT where
  rooted := rfl
  single := by
    intro h
    cases hasTwoSlashes_of_infix h
  bare := List.forall_mem_singleton.mpr (by decide)
  unslashed := Or.inl rfl

/-- What a location and a path name is canonical, or nothing. -/
theorem named_canonical {netloc path : List Char} (hbare : ∀ c ∈ path, c ≠ '?' ∧ c ≠ '#') :
    named netloc path = UNKNOWN ∨ Canonical (named netloc path) := by
  unfold named
  split
  · split
    · exact Or.inr root_canonical
    · exact Or.inl rfl
  · right
    split
    · rename_i hslash
      exact finished_canonical hslash hbare
    · apply finished_canonical rfl
      intro c hc
      cases List.mem_cons.mp hc with
      | inl heq => rw [heq]; decide
      | inr hmem => exact hbare c hmem

theorem letters_named {netloc path : List Char} (h : path ≠ []) :
    letters (named netloc path) = letters path := by
  unfold named
  rw [if_neg h]
  split
  · rename_i hslash
    exact letters_finished hslash
  · exact letters_finished rfl

theorem endsInSpace_named {netloc path : List Char} : EndsInSpace (named netloc path) ↔
    EndsInSpace path := by
  by_cases hpath : path = []
  · have hnone (text : List Char) (htext : letters text = []) : ¬ EndsInSpace text := by
      intro ⟨c, hc, _⟩
      rw [htext] at hc
      cases hc
    subst hpath
    refine ⟨fun h => absurd h (hnone _ ?_), fun h => absurd h (hnone _ rfl)⟩
    unfold named
    rw [if_pos rfl]
    split
    · rfl
    · rfl
  · unfold EndsInSpace
    rw [letters_named hpath]

theorem mem_named {netloc path : List Char} {c : Char} (h : c ∈ named netloc path) : c = '/' ∨
    c ∈ path := by
  unfold named at h
  split at h
  · split at h
    · exact Or.inl (List.mem_singleton.mp h)
    · cases h
  · split at h
    · rename_i hslash
      exact Or.inr (mem_finished hslash h)
    · exact List.mem_cons.mp (mem_finished rfl h)

/-- A text is canonicalised from what `urlsplit` finds in it. -/
theorem canonicalPath_eq (check : NetlocCheck) (value : List Char) :
    canonicalPath check value =
      (Url.urlsplit check (prepared (PyText.stripChars value))).map
        fun parts => named parts.netloc parts.path := by
  have hempty : (Url.urlsplit check (prepared [])).map
      (fun parts => named parts.netloc parts.path) =
      some UNKNOWN := by
    simp [prepared, isSchemeRelative, startsWithTwoSlashes, Url.urlsplit, Url.kept, Url.splitScheme,
      Url.splitNetloc, Url.partition, named]
  unfold canonicalPath
  split
  · rename_i hnil
    rw [hnil, show PyText.stripChars [] = [] from rfl, hempty]
  · simp only
    split
    · rename_i hnil
      rw [hnil, hempty]
    · rfl

/-- The result is there, canonical or unknown, and canonical once more. -/
def Settles (check : NetlocCheck) (value : List Char) : Prop :=
  ∃ path, canonicalPath check value = some path ∧ (path = UNKNOWN ∨ Canonical path) ∧
    canonicalPath check path = some path

theorem settles_iff (check : NetlocCheck) (value : List Char) :
    Settles check value ↔
      ∃ parts, Url.urlsplit check (prepared (PyText.stripChars value)) = some parts ∧
        ¬ EndsInSpace parts.path := by
  have heq := canonicalPath_eq check value
  constructor
  · intro ⟨path, hpath, hshape, hagain⟩
    rw [hpath] at heq
    obtain ⟨parts, hparts, hnamed⟩ := Option.map_eq_some_iff.mp heq.symm
    refine ⟨parts, hparts, fun hspace => ?_⟩
    have hspaceNamed : EndsInSpace (named parts.netloc parts.path) := endsInSpace_named.mpr hspace
    rw [hnamed] at hspaceNamed
    cases hshape with
    | inl hunknown =>
      obtain ⟨c, hc, -⟩ := hspaceNamed
      rw [hunknown] at hc
      cases hc
    | inr hcanonical => exact canonicalPath_of_endsInSpace check hcanonical hspaceNamed hagain
  · intro ⟨parts, hparts, hspace⟩
    rw [hparts] at heq
    have hshape : named parts.netloc parts.path = UNKNOWN ∨
        Canonical (named parts.netloc parts.path) :=
      named_canonical fun c hc => (Url.mem_path hparts hc).1
    refine ⟨named parts.netloc parts.path, heq, hshape, ?_⟩
    cases hshape with
    | inl hunknown =>
      rw [hunknown]
      rfl
    | inr hcanonical =>
      apply canonicalPath_of_canonical check hcanonical
      · intro c hc
        cases mem_named hc with
        | inl hslash => rw [hslash]; decide
        | inr hmem => exact (Url.mem_path hparts hmem).2
      · rwa [endsInSpace_named]

/-- A canonical path is never refused. -/
theorem exists_canonicalPath_again (check : NetlocCheck) {value path : List Char}
    (h : canonicalPath check value = some path) :
    ∃ again, canonicalPath check path = some again := by
  rw [canonicalPath_eq] at h
  obtain ⟨parts, hparts, hnamed⟩ := Option.map_eq_some_iff.mp h
  have hshape : named parts.netloc parts.path = UNKNOWN ∨
      Canonical (named parts.netloc parts.path) :=
    named_canonical fun c hc => (Url.mem_path hparts hc).1
  have hsafe : ∀ c ∈ named parts.netloc parts.path, Url.isUnsafe c = false := by
    intro c hc
    cases mem_named hc with
    | inl hslash => rw [hslash]; decide
    | inr hmem => exact (Url.mem_path hparts hmem).2
  rw [hnamed] at hshape hsafe
  cases hshape with
  | inl hunknown => exact ⟨UNKNOWN, by rw [hunknown]; rfl⟩
  | inr hcanonical =>
    obtain ⟨spaces, hsplit, -, hhead⟩ := exists_stripped hcanonical.rooted
    have hsingle : startsWithTwoSlashes (PyText.stripChars path) = false := by
      cases htwo : startsWithTwoSlashes (PyText.stripChars path) with
      | false => rfl
      | true =>
        obtain ⟨rest, hrest⟩ := exists_of_startsWithTwoSlashes htwo
        refine absurd ⟨[], rest ++ spaces, ?_⟩ hcanonical.single
        rw [hrest] at hsplit
        exact hsplit.symm
    have hkept : Url.kept (PyText.stripChars path) = PyText.stripChars path :=
      Url.kept_eq_self fun c hc => hsafe c (hsplit ▸ List.mem_append_left _ hc)
    have hlooked : looked (PyText.stripChars path) = PyText.stripChars path := by
      unfold looked
      rw [hsingle, Bool.false_and, if_neg Bool.false_ne_true, hkept]
    exact ⟨_,
      by rw [canonicalPath_slash check hhead, hlooked, namedAt_path check hhead (Or.inl hsingle)]⟩

/-! ## What is no part of a page's identity -/

structure IsPath (path : List Char) : Prop where
  rooted : path.head? = some '/'
  bare : ∀ c ∈ path, c ≠ '?' ∧ c ≠ '#'

structure IsHost (check : NetlocCheck) (host : List Char) : Prop where
  nonempty : host ≠ []
  plain : ∀ c ∈ host, Url.isDelimiter c = false ∧ Url.isUnsafe c = false
  accepted : check.accepts host = true

/-- A trailing slash, a query, a fragment and a host leave the canonical path as it is. -/
structure SameForm (check : NetlocCheck) (path : List Char) : Prop where
  slash : canonicalPath check (path ++ ['/']) = canonicalPath check path
  query : ∀ query, canonicalPath check (path ++ '?' :: query) = canonicalPath check path
  fragment : ∀ fragment, canonicalPath check (path ++ '#' :: fragment) = canonicalPath check path
  host : ∀ host, IsHost check host →
    canonicalPath check (['h', 't', 't', 'p', 's', ':', '/', '/'] ++ host ++ path) =
      canonicalPath check path

def leadingSlashes (path : List Char) : Nat := (path.takeWhile (· = '/')).length

def afterSlashes (path : List Char) : List Char := path.dropWhile (· = '/')

/-- What follows the first slash, when it is looked at, does not make a location of it. -/
def Opens (rest : List Char) : Prop := ReadsAsPath ('/' :: rest)

/-- The path is read as a path whatever follows it, and no space is stripped off its end. -/
structure Plain (path : List Char) : Prop where
  opens : afterSlashes path = [] ∨
    Url.kept (afterSlashes path) ≠ [] ∧ Opens (Url.kept (afterSlashes path))
  segmented : leadingSlashes path = 2 →
    '/' ∈ afterSlashes path ∧ '.' ∉ (afterSlashes path).takeWhile (· ≠ '/')
  unstripped : Url.kept (PyText.stripChars path) = Url.kept path

section Slashes

variable {n : Nat} {rest : List Char}

/-- So many slashes and what follows them. -/
def slashed (n : Nat) (rest : List Char) : List Char := List.replicate n '/' ++ rest

theorem slashed_head? (n : Nat) (rest : List Char) : (slashed (n + 1) rest).head? = some '/' := rfl

theorem takeWhile_slash (h : rest.head? ≠ some '/') : rest.takeWhile (· = '/') = [] := by
  cases rest with
  | nil => rfl
  | cons c more =>
    apply List.takeWhile_cons_of_neg
    intro hc
    exact h (congrArg some (by simpa using hc))

theorem dropWhile_slash (h : rest.head? ≠ some '/') : rest.dropWhile (· = '/') = rest := by
  cases rest with
  | nil => rfl
  | cons c more =>
    apply List.dropWhile_cons_of_neg
    intro hc
    exact h (congrArg some (by simpa using hc))

theorem leadingSlashes_slashed (n : Nat) (h : rest.head? ≠ some '/') :
    leadingSlashes (slashed n rest) = n := by
  unfold leadingSlashes slashed
  rw [List.takeWhile_append_of_pos
    fun c hc => by simp [List.eq_of_mem_replicate hc], takeWhile_slash h,
    List.append_nil, List.length_replicate]

theorem afterSlashes_slashed (n : Nat) (h : rest.head? ≠ some '/') :
    afterSlashes (slashed n rest) = rest := by
  unfold afterSlashes slashed
  rw [List.dropWhile_append_of_pos
    fun c hc => by simp [List.eq_of_mem_replicate hc], dropWhile_slash h]

/-- A rooted text is some slashes and what follows them. -/
theorem exists_slashed {path : List Char} (h : path.head? = some '/') :
    ∃ n rest, path = slashed (n + 1) rest ∧ rest.head? ≠ some '/' := by
  induction path with
  | nil => cases h
  | cons c rest ih =>
    have hc : c = '/' := Option.some.inj h
    by_cases hrest : rest.head? = some '/'
    · obtain ⟨n, more, hmore, hhead⟩ := ih hrest
      refine ⟨n + 1, more, ?_, hhead⟩
      rw [hc, hmore]
      rfl
    · exact ⟨0, rest, by rw [hc]; rfl, hrest⟩

theorem kept_slashed (n : Nat) (rest : List Char) :
    Url.kept (slashed n rest) = slashed n (Url.kept rest) := by
  unfold slashed
  rw [Url.kept_append, Url.kept_eq_self fun c hc => by rw [List.eq_of_mem_replicate hc]; decide]

theorem finished_slashed (n : Nat) (rest : List Char) :
    finished (slashed (n + 1) rest) = finished ('/' :: rest) := by
  induction n with
  | zero => rfl
  | succ n ih => exact (finished_slash (slashed_head? n rest)).trans ih

/-- Two slashes name a location where a dot stands in the first segment; else the slashes count as
one. -/
theorem looked_slashed (n : Nat) (h : rest.head? ≠ some '/') :
    looked (slashed (n + 1) rest) =
      if n = 1 ∧ '.' ∈ rest.takeWhile (· ≠ '/') then '/' :: '/' :: Url.kept rest
      else '/' :: Url.kept rest := by
  have hone : looked (slashed 1 rest) = '/' :: Url.kept rest := by
    have hsingle : startsWithTwoSlashes (slashed 1 rest) = false := by
      cases htwo : startsWithTwoSlashes (slashed 1 rest) with
      | false => rfl
      | true => exact absurd (startsWithTwoSlashes_iff.mp htwo).2 h
    unfold looked
    rw [hsingle, Bool.false_and, if_neg Bool.false_ne_true]
    exact Url.kept_cons_of_safe _ (by decide)
  match n with
  | 0 => rw [if_neg (fun hzero => absurd hzero.1 (by decide)), hone]
  | 1 =>
    have htwo : startsWithTwoSlashes (slashed 2 rest) = true := rfl
    have hafter : (slashed 2 rest).dropWhile (· = '/') = rest := afterSlashes_slashed 2 h
    have hscheme : isSchemeRelative (slashed 2 rest) =
      (rest.takeWhile (· ≠ '/')).contains '.' := rfl
    unfold looked
    rw [htwo, Bool.true_and, hscheme, hafter]
    by_cases hdot : '.' ∈ rest.takeWhile (· ≠ '/')
    · rw [List.contains_iff_mem.mpr hdot, Bool.not_true, if_neg Bool.false_ne_true,
        if_pos ⟨rfl, hdot⟩]
      rfl
    · have hnone : (rest.takeWhile (· ≠ '/')).contains '.' = false := by
        simpa using hdot
      rw [hnone, Bool.not_false, if_pos rfl, if_neg fun hboth => hdot hboth.2]
      exact Url.kept_cons_of_safe rest (c := '/') (by decide)
  | n + 2 =>
    have htwo : startsWithTwoSlashes (slashed (n + 3) rest) = true := rfl
    have hafter : (slashed (n + 3) rest).dropWhile (· = '/') = rest :=
      afterSlashes_slashed (n + 3) h
    have hscheme : isSchemeRelative (slashed (n + 3) rest) = false := rfl
    unfold looked
    rw [htwo, Bool.true_and, hscheme, hafter, Bool.not_false, if_pos rfl,
      if_neg fun hboth => absurd hboth.1 (by omega)]
    exact Url.kept_cons_of_safe rest (c := '/') (by decide)

theorem rdropWhile_cons_of_neg {before after : List Char} {c : Char}
    (hc : PyText.isSpace c = false) :
    (before ++ c :: after).rdropWhile PyText.isSpace =
      before ++ c :: after.rdropWhile PyText.isSpace := by
  induction after using List.reverseRecOn with
  | nil =>
    rw [List.rdropWhile_nil, List.rdropWhile_concat_neg _ _ _
      (by rw [hc]; exact Bool.false_ne_true)]
  | append_singleton front last ih =>
    have hjoin : before ++ c :: (front ++ [last]) = (before ++ c :: front) ++ [last] := by simp
    rw [hjoin]
    cases hlast : PyText.isSpace last with
    | true =>
      rw [List.rdropWhile_concat_pos _ _ _ hlast, List.rdropWhile_concat_pos _ _ _ hlast]
      exact ih
    | false =>
      have hkept : ¬ PyText.isSpace last = true := by rw [hlast]; exact Bool.false_ne_true
      rw [List.rdropWhile_concat_neg _ _ _ hkept, List.rdropWhile_concat_neg _ _ _ hkept, hjoin]

theorem stripChars_slashed (n : Nat) (rest : List Char) :
    PyText.stripChars (slashed (n + 1) rest) = slashed (n + 1)
      (rest.rdropWhile PyText.isSpace) := by
  rw [stripChars_slash (slashed_head? n rest)]
  have hsplit (text : List Char) : slashed (n + 1) text = List.replicate n '/' ++ '/' :: text := by
    unfold slashed
    rw [List.replicate_succ', List.append_assoc]
    rfl
  rw [hsplit, hsplit]
  exact rdropWhile_cons_of_neg rfl

theorem head?_rdropWhile (h : rest.head? ≠ some '/') :
    (rest.rdropWhile PyText.isSpace).head? ≠ some '/' := by
  intro hhead
  obtain ⟨after, hafter⟩ := List.rdropWhile_prefix PyText.isSpace rest
  apply h
  rw [← hafter, List.head?_append, hhead]
  rfl

theorem canonicalPath_slashed (check : NetlocCheck) (n : Nat) (rest : List Char) :
    canonicalPath check (slashed (n + 1) rest) =
      namedAt check (looked (slashed (n + 1) (rest.rdropWhile PyText.isSpace))) := by
  have hhead : (PyText.stripChars (slashed (n + 1) rest)).head? = some '/' := by
    rw [stripChars_slashed]
    rfl
  rw [canonicalPath_slash check hhead, stripChars_slashed]

/-- Read as a path, a text loses its query, its fragment and its repeated slashes. -/
theorem canonicalPath_of_opens (check : NetlocCheck) {n : Nat} {rest : List Char}
    (h : rest.head? ≠ some '/')
    (hsegment : ¬ (n = 1 ∧ '.' ∈ (rest.rdropWhile PyText.isSpace).takeWhile (· ≠ '/')))
    (hopens : Opens (Url.kept (rest.rdropWhile PyText.isSpace))) :
    canonicalPath check (slashed (n + 1) rest) =
      some (finished ('/' :: Url.beforeQuery (Url.kept (rest.rdropWhile PyText.isSpace)))) := by
  rw [canonicalPath_slashed, looked_slashed n (head?_rdropWhile h), if_neg hsegment,
    namedAt_path check rfl hopens, beforeQuery_slash]

theorem canonicalPath_locate (check : NetlocCheck) (value : List Char) :
    canonicalPath check value = namedAt check
      (Url.splitScheme
        (Url.kept ((prepared (PyText.stripChars value)).dropWhile Url.isControlOrSpace))).2 := by
  unfold namedAt
  rw [canonicalPath_eq, ← Url.urlsplit_locate, Option.map_map]
  rfl

/-- With a host before it, a path is always read as a path. -/
theorem canonicalPath_host {check : NetlocCheck} {host : List Char} (hhost : IsHost check host)
    (n : Nat) {rest : List Char}
    (hbare : ∀ c ∈ rest, c ≠ '?' ∧ c ≠ '#') :
    canonicalPath check (['h', 't', 't', 'p', 's', ':', '/', '/'] ++ host ++ slashed (n + 1) rest) =
      some (finished ('/' :: Url.kept (rest.rdropWhile PyText.isSpace))) := by
  have hjoin (text : List Char) : ['h', 't', 't', 'p', 's', ':', '/', '/'] ++ host ++ slashed
      (n + 1) text =
      (['h', 't', 't', 'p', 's', ':', '/', '/'] ++ host ++ List.replicate n '/') ++
        '/' :: text := by
    unfold slashed
    rw [List.replicate_succ']
    simp
  have hstrip : PyText.stripChars
      (['h', 't', 't', 'p', 's', ':', '/', '/'] ++ host ++ slashed (n + 1) rest) =
      ['h', 't', 't', 'p', 's', ':', '/', '/'] ++ host ++
        slashed (n + 1) (rest.rdropWhile PyText.isSpace) := by
    show List.rdropWhile PyText.isSpace
      (['h', 't', 't', 'p', 's', ':', '/', '/'] ++ host ++ slashed (n + 1) rest) = _
    rw [hjoin, hjoin]
    exact rdropWhile_cons_of_neg rfl
  have hprepared : prepared (['h', 't', 't', 'p', 's', ':', '/', '/'] ++ host ++
      slashed (n + 1) (rest.rdropWhile PyText.isSpace)) =
      ['h', 't', 't', 'p', 's', ':'] ++ ('/' :: '/' :: (host ++
        slashed (n + 1) (rest.rdropWhile PyText.isSpace))) := rfl
  have hkept : Url.kept (['h', 't', 't', 'p', 's', ':'] ++ ('/' :: '/' :: (host ++
      slashed (n + 1) (rest.rdropWhile PyText.isSpace)))) =
      ['h', 't', 't', 'p', 's', ':'] ++ ('/' :: '/' :: (host ++
        slashed (n + 1) (Url.kept (rest.rdropWhile PyText.isSpace)))) := by
    have hscheme (text : List Char) :
        Url.kept (['h', 't', 't', 'p', 's', ':'] ++ ('/' :: '/' :: text)) =
        ['h', 't', 't', 'p', 's', ':'] ++ ('/' :: '/' :: Url.kept text) := rfl
    rw [hscheme, Url.kept_append, kept_slashed, Url.kept_eq_self fun c hc => (hhost.plain c hc).2]
  have hsplit : Url.splitNetloc ('/' :: '/' :: (host ++
      slashed (n + 1) (Url.kept (rest.rdropWhile PyText.isSpace)))) =
      (host, slashed (n + 1) (Url.kept (rest.rdropWhile PyText.isSpace))) := by
    have hplain : ∀ c ∈ host, (!Url.isDelimiter c) = true := fun c hc => by
      rw [(hhost.plain c hc).1]; rfl
    show (List.takeWhile _ _, List.dropWhile _ _) = _
    rw [List.takeWhile_append_of_pos hplain, List.dropWhile_append_of_pos hplain]
    exact Prod.ext (List.append_nil host) rfl
  have hpath : Url.beforeQuery (slashed (n + 1) (Url.kept (rest.rdropWhile PyText.isSpace))) =
      slashed (n + 1) (Url.kept (rest.rdropWhile PyText.isSpace)) := by
    apply Url.beforeQuery_of_path
    intro c hc
    cases List.mem_append.mp hc with
    | inl hslash => rw [List.eq_of_mem_replicate hslash]; decide
    | inr hmem => exact hbare c ((List.rdropWhile_prefix _ _).subset (Url.mem_kept.mp hmem).1)
  rw [canonicalPath_locate, hstrip, hprepared]
  show namedAt check (Url.splitScheme (Url.kept (['h', 't', 't', 'p', 's', ':'] ++ _))).2 = _
  rw [hkept, Url.splitScheme_https]
  have hlocated : Url.locate check ('/' :: '/' :: (host ++
      slashed (n + 1) (Url.kept (rest.rdropWhile PyText.isSpace)))) =
      some (host, slashed (n + 1) (Url.kept (rest.rdropWhile PyText.isSpace))) := by
    unfold Url.locate
    rw [hsplit]
    simp only
    rw [hhost.accepted, if_neg fun hrefused => Bool.false_ne_true hrefused.2.symm, hpath]
  have hne : slashed (n + 1) (Url.kept (rest.rdropWhile PyText.isSpace)) ≠ [] := by
    intro hnil
    cases hnil
  unfold namedAt
  rw [hlocated]
  show some (named host (slashed (n + 1) _)) = _
  unfold named
  rw [if_neg hne, if_pos (slashed_head? n _), finished_slashed]

end Slashes

/-! ## When a path keeps its form -/

section Form

variable {check : NetlocCheck} {n : Nat} {rest : List Char}

theorem mem_takeWhile_of_le {α : Type} {p : α → Bool} {a b : List α} (h : a <+: b) {x : α}
    (hx : x ∈ a.takeWhile p) : x ∈ b.takeWhile p := by
  obtain ⟨after, hafter⟩ := h
  rw [← hafter, List.takeWhile_append]
  split
  · rename_i hall
    exact List.mem_append_left _ ((List.takeWhile_subset _) hx)
  · exact hx

theorem opens_append {a : List Char} (b : List Char) (hne : a ≠ []) (h : Opens a) :
    Opens (a ++ b) := by
  match a, hne, h with
  | c :: [], _, Or.inl hone =>
    cases hc : startsWithTwoSlashes ('/' :: c :: b) with
    | false => exact Or.inl hc
    | true =>
      have hslash : c = '/' := Option.some.inj (startsWithTwoSlashes_iff.mp hc).2
      rw [hslash] at hone
      cases hone
  | c :: [], _, Or.inr htwo => cases (startsWithTwoSlashes_iff.mp htwo).2
  | c :: d :: more, _, Or.inl hone =>
    cases hc : startsWithTwoSlashes ('/' :: c :: d :: more ++ b) with
    | false => exact Or.inl hc
    | true =>
      have hslash : c = '/' := Option.some.inj (startsWithTwoSlashes_iff.mp hc).2
      rw [hslash] at hone
      cases hone
  | c :: d :: more, _, Or.inr htwo =>
    obtain ⟨after, hafter⟩ := exists_of_startsWithTwoSlashes htwo
    right
    show startsWithTwoSlashes (c :: d :: more ++ b) = true
    rw [show c :: d :: more = '/' :: '/' :: after from hafter]
    rfl

theorem plain_slashed_iff (h : rest.head? ≠ some '/') :
    Plain (slashed (n + 1) rest) ↔
      (rest = [] ∨ Url.kept rest ≠ [] ∧ Opens (Url.kept rest)) ∧
      (n = 1 → '/' ∈ rest ∧ '.' ∉ rest.takeWhile (· ≠ '/')) ∧
      Url.kept (rest.rdropWhile PyText.isSpace) = Url.kept rest := by
  have hleading := leadingSlashes_slashed (n + 1) h
  have hafter := afterSlashes_slashed (n + 1) h
  have hstripped : Url.kept (PyText.stripChars (slashed (n + 1) rest)) =
      Url.kept (slashed (n + 1) rest) ↔
      Url.kept (rest.rdropWhile PyText.isSpace) = Url.kept rest := by
    rw [stripChars_slashed, kept_slashed, kept_slashed]
    exact List.append_cancel_left_eq ..|>.to_iff
  constructor
  · intro hplain
    have hopens := hplain.opens
    have hsegmented := hplain.segmented
    rw [hafter] at hopens hsegmented
    rw [hleading] at hsegmented
    exact ⟨hopens, fun hn => hsegmented (by omega), hstripped.mp hplain.unstripped⟩
  · intro ⟨hopens, hsegmented, hspaces⟩
    exact {
      opens := by rwa [hafter]
      segmented := by
        rw [hleading, hafter]
        exact fun hn => hsegmented (by omega)
      unstripped := hstripped.mpr hspaces }

/-- The first segment is over where a slash comes. -/
theorem takeWhile_segment {a : List Char} (b : List Char) (h : '/' ∈ a) :
    (a ++ b).takeWhile (· ≠ '/') = a.takeWhile (· ≠ '/') := by
  induction a with
  | nil => cases h
  | cons c rest ih =>
    by_cases hc : c = '/'
    · rw [hc]
      rfl
    · have hrest : '/' ∈ rest := (List.mem_cons.mp h).resolve_left fun heq => hc heq.symm
      have hkeep (text : List Char) : (c :: text).takeWhile (· ≠ '/') =
          c :: text.takeWhile (· ≠ '/') :=
        List.takeWhile_cons_of_pos (decide_eq_true hc)
      rw [List.cons_append, hkeep, hkeep, ih hrest]

theorem slashed_append (n : Nat) (rest after : List Char) :
    slashed n rest ++ after = slashed n (rest ++ after) := List.append_assoc ..

theorem isPath_slashed (h : IsPath (slashed (n + 1) rest)) : ∀ c ∈ rest, c ≠ '?' ∧ c ≠ '#' :=
  fun c hc => h.bare c (List.mem_append_right _ hc)

section Plain

variable (h : rest.head? ≠ some '/') (hbare : ∀ c ∈ rest, c ≠ '?' ∧ c ≠ '#')
  (hplain : Plain (slashed (n + 1) rest))

include h hplain

theorem opens_kept : Opens (Url.kept rest) := by
  cases ((plain_slashed_iff h).mp hplain).1 with
  | inl hnil =>
    rw [hnil]
    exact Or.inl rfl
  | inr hopens => exact hopens.2

include hbare

theorem canonicalPath_plain :
    canonicalPath check (slashed (n + 1) rest) = some (finished ('/' :: Url.kept rest)) := by
  obtain ⟨-, hsegmented, hspaces⟩ := (plain_slashed_iff h).mp hplain
  rw [canonicalPath_of_opens check h, hspaces, Url.beforeQuery_of_path fun c hc =>
    hbare c (Url.mem_kept.mp hc).1]
  · exact fun hdot => (hsegmented hdot.1).2
      (mem_takeWhile_of_le (List.rdropWhile_prefix _ _) hdot.2)
  · rw [hspaces]
    exact opens_kept h hplain

theorem canonicalPath_plain_slash :
    canonicalPath check (slashed (n + 1) rest ++ ['/']) =
      some (finished ('/' :: Url.kept rest)) := by
  obtain ⟨hopens, hsegmented, -⟩ := (plain_slashed_iff h).mp hplain
  cases hopens with
  | inl hnil =>
    subst hnil
    have hjoin : slashed (n + 1) [] ++ ['/'] = slashed (n + 1 + 1) [] := by
      unfold slashed
      rw [List.append_nil, List.append_nil, ← List.replicate_succ']
    rw [hjoin, canonicalPath_of_opens check h]
    · rfl
    · exact fun hdot => absurd hdot.2 List.not_mem_nil
    · exact Or.inl rfl
  | inr hopens =>
    have hne : rest ≠ [] := by
      intro hnil
      rw [hnil] at hopens
      exact hopens.1 rfl
    have hhead : (rest ++ ['/']).head? ≠ some '/' := by rwa [List.head?_append_of_ne_nil _ hne]
    have hstrip : (rest ++ ['/']).rdropWhile PyText.isSpace = rest ++ ['/'] :=
      rdropWhile_cons_of_neg rfl
    have hkept : Url.kept (rest ++ ['/']) = Url.kept rest ++ ['/'] := Url.kept_append rest ['/']
    have hquery : Url.beforeQuery (Url.kept rest ++ ['/']) = Url.kept rest ++ ['/'] :=
      Url.beforeQuery_append ['/'] fun c hc => hbare c (Url.mem_kept.mp hc).1
    rw [slashed_append, canonicalPath_of_opens check hhead, hstrip, hkept, hquery]
    · have hrooted : ('/' :: Url.kept rest).head? = some '/' := rfl
      exact congrArg some (finished_append_slash hrooted)
    · rw [hstrip]
      intro hdot
      rw [takeWhile_segment _ (hsegmented hdot.1).1] at hdot
      exact (hsegmented hdot.1).2 hdot.2
    · rw [hstrip, hkept]
      exact opens_append _ hopens.1 hopens.2

/-- A query or a fragment, by its first character. -/
theorem canonicalPath_plain_suffix {d : Char} (hd : d = '?' ∨ d = '#') (after : List Char) :
    canonicalPath check (slashed (n + 1) rest ++ d :: after) =
      some (finished ('/' :: Url.kept rest)) := by
  obtain ⟨hopens, hsegmented, -⟩ := (plain_slashed_iff h).mp hplain
  have hspace : PyText.isSpace d = false := by
    cases hd with
    | inl heq => rw [heq]; decide
    | inr heq => rw [heq]; decide
  have hsafe : Url.isUnsafe d = false := by
    cases hd with
    | inl heq => rw [heq]; decide
    | inr heq => rw [heq]; decide
  have hslash : d ≠ '/' := by
    cases hd with
    | inl heq => rw [heq]; decide
    | inr heq => rw [heq]; decide
  have hnothing (text : List Char) : Url.beforeQuery (d :: text) = [] := by
    cases hd with
    | inl heq => rw [heq]; simp [Url.beforeQuery]
    | inr heq => rw [heq]; simp [Url.beforeQuery]
  have hhead : (rest ++ d :: after).head? ≠ some '/' := by
    cases rest with
    | nil => exact fun heq => hslash (Option.some.inj heq)
    | cons c more => exact h
  have hstrip : (rest ++ d :: after).rdropWhile PyText.isSpace =
      rest ++ d :: after.rdropWhile PyText.isSpace := rdropWhile_cons_of_neg hspace
  have hkept : Url.kept (rest ++ d :: after.rdropWhile PyText.isSpace) =
      Url.kept rest ++ d :: Url.kept (after.rdropWhile PyText.isSpace) := by
    rw [Url.kept_append, Url.kept_cons_of_safe _ hsafe]
  have hquery : Url.beforeQuery (Url.kept rest ++ d :: Url.kept (after.rdropWhile PyText.isSpace)) =
      Url.kept rest := by
    rw [Url.beforeQuery_append _ fun c hc => hbare c (Url.mem_kept.mp hc).1, hnothing,
      List.append_nil]
  rw [slashed_append, canonicalPath_of_opens check hhead, hstrip, hkept, hquery]
  · rw [hstrip]
    intro hdot
    rw [takeWhile_segment _ (hsegmented hdot.1).1] at hdot
    exact (hsegmented hdot.1).2 hdot.2
  · rw [hstrip, hkept]
    cases hopens with
    | inl hnil =>
      rw [hnil]
      left
      cases hc : startsWithTwoSlashes ('/' :: d :: Url.kept (after.rdropWhile PyText.isSpace)) with
      | false => exact hc
      | true => exact absurd (Option.some.inj (startsWithTwoSlashes_iff.mp hc).2) hslash
    | inr hopens => exact opens_append _ hopens.1 hopens.2

/-- Every form of a plain path is read as the path. -/
theorem sameForm_of_plain : SameForm check (slashed (n + 1) rest) where
  slash := (canonicalPath_plain_slash h hbare hplain).trans
    (canonicalPath_plain h hbare hplain).symm
  query query := (canonicalPath_plain_suffix h hbare hplain (Or.inl rfl) query).trans
    (canonicalPath_plain h hbare hplain).symm
  fragment fragment := (canonicalPath_plain_suffix h hbare hplain (Or.inr rfl) fragment).trans
    (canonicalPath_plain h hbare hplain).symm
  host host hhost := by
    rw [canonicalPath_host hhost n hbare, canonicalPath_plain h hbare hplain,
      ((plain_slashed_iff h).mp hplain).2.2]

end Plain

section Necessary

theorem letters_slash (text : List Char) : letters ('/' :: text) = letters text := rfl

/-- Where a location is read, the text cannot be read like its own path. -/
theorem not_finished_of_host {url path : List Char} (htwo : startsWithTwoSlashes url = true)
    (hthree : startsWithTwoSlashes url.tail = false)
    (hletters : (letters (Url.beforeQuery url)).length ≤ (letters path).length) :
    namedAt check url ≠ some (finished ('/' :: path)) := by
  intro hnamed
  cases namedAt_host check htwo hthree hnamed with
  | inl hnil => exact finished_ne_nil rfl hnil
  | inr hlt =>
    rw [letters_finished rfl, letters_slash] at hlt
    omega

/-- A location after two slashes whose first segment has a dot. -/
theorem head?_kept_of_dot (hdot : '.' ∈ rest.takeWhile (· ≠ '/')) :
    (Url.kept rest).head? ≠ some '/' := by
  induction rest with
  | nil => exact absurd hdot List.not_mem_nil
  | cons c more ih =>
    by_cases hc : c = '/'
    · rw [hc] at hdot
      exact absurd hdot List.not_mem_nil
    · have hkeep : (c :: more).takeWhile (· ≠ '/') = c :: more.takeWhile (· ≠ '/') :=
        List.takeWhile_cons_of_pos (decide_eq_true hc)
      rw [hkeep] at hdot
      by_cases hsafe : Url.isUnsafe c = false
      · rw [Url.kept_cons_of_safe _ hsafe]
        exact fun heq => hc (Option.some.inj heq)
      · have hdrop : Url.kept (c :: more) = Url.kept more :=
          List.filter_cons_of_neg (by simpa using hsafe)
        rw [hdrop]
        apply ih
        cases List.mem_cons.mp hdot with
        | inl heq =>
          rw [← heq] at hsafe
          exact absurd (by decide) hsafe
        | inr hmem => exact hmem

variable (h : rest.head? ≠ some '/') (hbare : ∀ c ∈ rest, c ≠ '?' ∧ c ≠ '#')

include h hbare

/-- The host leaves the path as it is only where the path itself is read as one. -/
theorem opens_of_host
    (hhost : canonicalPath check (slashed (n + 1) rest) =
      some (finished ('/' :: Url.kept (rest.rdropWhile PyText.isSpace)))) :
    ¬ (n = 1 ∧ '.' ∈ (rest.rdropWhile PyText.isSpace).takeWhile (· ≠ '/')) ∧
      Opens (Url.kept (rest.rdropWhile PyText.isSpace)) := by
  have hkept : Url.beforeQuery (Url.kept (rest.rdropWhile PyText.isSpace)) =
      Url.kept (rest.rdropWhile PyText.isSpace) :=
    Url.beforeQuery_of_path fun c hc =>
      hbare c ((List.rdropWhile_prefix _ _).subset (Url.mem_kept.mp hc).1)
  rw [canonicalPath_slashed, looked_slashed n (head?_rdropWhile h)] at hhost
  split at hhost
  · rename_i hdot
    exfalso
    refine not_finished_of_host rfl ?_ ?_ hhost
    · cases hc : startsWithTwoSlashes ('/' :: Url.kept (rest.rdropWhile PyText.isSpace)) with
      | false => exact hc
      | true => exact absurd (startsWithTwoSlashes_iff.mp hc).2 (head?_kept_of_dot hdot.2)
    · rw [beforeQuery_slash, beforeQuery_slash, hkept]
      exact Nat.le_refl _
  · rename_i hdot
    refine ⟨hdot, (namedAt_eq_finished_iff check rfl).mp ?_⟩
    rw [hhost, beforeQuery_slash, hkept]

omit h hbare in
theorem dot_mem_of_append {a b : List Char} (hdot : '.' ∈ (a ++ b).takeWhile (· ≠ '/'))
    (hb : '.' ∉ b) :
    '.' ∈ a.takeWhile (· ≠ '/') := by
  rw [List.takeWhile_append] at hdot
  split at hdot
  · rename_i hall
    have hself : a.takeWhile (· ≠ '/') = a :=
      (List.takeWhile_prefix _).eq_of_length (by simpa using hall)
    rw [hself]
    exact (List.mem_append.mp hdot).resolve_right fun hmem => hb ((List.takeWhile_subset _) hmem)
  · exact hdot

/-- The query leaves the path as it is only where no space is stripped off its end. -/
theorem unstripped_of_query
    (hhost : canonicalPath check (slashed (n + 1) rest) =
      some (finished ('/' :: Url.kept (rest.rdropWhile PyText.isSpace))))
    (hquery : canonicalPath check (slashed (n + 1) rest ++ ['?']) =
      canonicalPath check (slashed (n + 1) rest)) :
    Url.kept (rest.rdropWhile PyText.isSpace) = Url.kept rest := by
  obtain ⟨hdot, hopens⟩ := opens_of_host h hbare hhost
  have hsplit : rest.rdropWhile PyText.isSpace ++ rest.rtakeWhile PyText.isSpace = rest :=
    List.rdropWhile_append_rtakeWhile
  have hspaces : ∀ c ∈ rest.rtakeWhile PyText.isSpace, PyText.isSpace c = true :=
    fun c hc => List.mem_rtakeWhile_imp hc
  generalize hfront : rest.rdropWhile PyText.isSpace = front at *
  generalize rest.rtakeWhile PyText.isSpace = spaces at *
  have hhead : (rest ++ ['?']).head? ≠ some '/' := by
    cases rest with
    | nil => exact fun heq => absurd (Option.some.inj heq) (by decide)
    | cons c more => exact h
  have hstrip : (rest ++ ['?']).rdropWhile PyText.isSpace = rest ++ ['?'] :=
    rdropWhile_cons_of_neg rfl
  have hkept : Url.kept (rest ++ ['?']) = Url.kept front ++ (Url.kept spaces ++ ['?']) := by
    rw [← hsplit, Url.kept_append, Url.kept_append, List.append_assoc]
    rfl
  have hnodot : ¬ (n = 1 ∧ '.' ∈ (rest ++ ['?']).takeWhile (· ≠ '/')) := by
    intro ⟨hn, hmem⟩
    rw [← hsplit, List.append_assoc] at hmem
    apply hdot ⟨hn, dot_mem_of_append hmem _⟩
    intro hlater
    cases List.mem_append.mp hlater with
    | inl hspace => exact absurd (hspaces _ hspace) (by decide)
    | inr hlast => exact absurd (List.mem_singleton.mp hlast) (by decide)
  have hslashless : ∀ c ∈ Url.kept spaces, c ≠ '/' := fun c hc =>
    isSpace_ne_slash (hspaces c (Url.mem_kept.mp hc).1)
  have hread : Opens (Url.kept front ++ (Url.kept spaces ++ ['?'])) := by
    by_cases hne : Url.kept front = []
    · left
      rw [hne, List.nil_append]
      cases hc : startsWithTwoSlashes ('/' :: (Url.kept spaces ++ ['?'])) with
      | false => rfl
      | true =>
        have hfirst := (startsWithTwoSlashes_iff.mp hc).2
        cases hkeptSpaces : Url.kept spaces with
        | nil =>
          rw [hkeptSpaces] at hfirst
          exact absurd (Option.some.inj hfirst) (by decide)
        | cons c more =>
          rw [hkeptSpaces] at hfirst
          exact absurd (Option.some.inj hfirst) (hslashless c (hkeptSpaces ▸ List.mem_cons_self))
    · exact opens_append _ hne hopens
  have hpath : Url.beforeQuery (Url.kept front ++ (Url.kept spaces ++ ['?'])) = Url.kept rest := by
    rw [← List.append_assoc, ← Url.kept_append, hsplit,
      Url.beforeQuery_append _ fun c hc => hbare c (Url.mem_kept.mp hc).1]
    exact List.append_nil _
  rw [slashed_append, canonicalPath_of_opens check hhead (by rwa [hstrip])
    (by rwa [hstrip, hkept]), hstrip,
    hkept, hpath, hhost] at hquery
  -- the same characters, so no more were kept
  have hletters := congrArg letters (Option.some.inj hquery)
  rw [letters_finished rfl, letters_finished rfl, letters_slash, letters_slash, ← hsplit,
    Url.kept_append,
    letters_append, letters_eq_self hslashless] at hletters
  have hnone : Url.kept spaces = [] := by
    simpa using hletters
  rw [← hsplit, Url.kept_append, hnone, List.append_nil]

theorem plain_of_sameForm (hsame : SameForm check (slashed (n + 1) rest)) :
    Plain (slashed (n + 1) rest) := by
  have hdomain : IsHost check ['k', 'o', 'd', 'a', '.', 'e', 'e'] := by
    have hplain : ∀ c ∈ ['k', 'o', 'd', 'a', '.', 'e', 'e'],
        Url.isDelimiter c = false ∧ Url.isUnsafe c = false := by
      have hall : (['k', 'o', 'd', 'a', '.', 'e', 'e'].all fun c =>
          !Url.isDelimiter c && !Url.isUnsafe c) = true := by decide
      simpa using hall
    have hletters : ∀ c ∈ ['k', 'o', 'd', 'a', '.', 'e', 'e'], c.isAlphanum = true ∨ c = '.' ∨
        c = '-' := by
      simp
    exact ⟨by decide, hplain, check.plain _ hletters⟩
  have hhost := (hsame.host _ hdomain).symm.trans (canonicalPath_host hdomain n hbare)
  obtain ⟨hdot, hopens⟩ := opens_of_host h hbare hhost
  have hspaces := unstripped_of_query h hbare hhost (hsame.query [])
  have hkeptBare : ∀ c ∈ Url.kept rest, c ≠ '?' ∧ c ≠ '#' :=
    fun c hc => hbare c (Url.mem_kept.mp hc).1
  rw [hspaces] at hhost hopens
  have hslash : n = 1 → '/' ∈ rest := by
    intro hn
    by_contra hnone
    have hall : ∀ c ∈ rest ++ ['?', '.'], c ≠ '/' := by
      intro c hc heq
      rw [heq] at hc
      cases List.mem_append.mp hc with
      | inl hmem => exact hnone hmem
      | inr hlast => exact absurd hlast (by decide)
    have hfirst : '.' ∈ (rest ++ ['?', '.']).takeWhile (· ≠ '/') := by
      rw [List.takeWhile_eq_self_iff.mpr fun c hc => decide_eq_true (hall c hc)]
      exact List.mem_append_right _ (by decide)
    have hhead : (rest ++ ['?', '.']).head? ≠ some '/' := by
      intro heq
      exact hall '/' (List.mem_of_mem_head? (Option.mem_def.mpr heq)) rfl
    have hstrip : (rest ++ ['?', '.']).rdropWhile PyText.isSpace = rest ++ ['?', '.'] :=
      @rdropWhile_cons_of_neg rest ['.'] '?' rfl
    have hlaw := hsame.query ['.']
    rw [hhost, slashed_append, canonicalPath_slashed, hstrip, looked_slashed n hhead,
      if_pos ⟨hn, hfirst⟩]
      at hlaw
    refine not_finished_of_host rfl ?_ ?_ hlaw
    · cases hc : startsWithTwoSlashes ('/' :: Url.kept (rest ++ ['?', '.'])) with
      | false => exact hc
      | true => exact absurd (startsWithTwoSlashes_iff.mp hc).2 (head?_kept_of_dot hfirst)
    · rw [beforeQuery_slash, beforeQuery_slash, Url.kept_append, Url.beforeQuery_append _ hkeptBare]
      show (letters (Url.kept rest ++ [])).length ≤ _
      rw [List.append_nil]
  apply (plain_slashed_iff h).mpr
  refine ⟨?_, fun hn => ⟨hslash hn, fun hmem => hdot ⟨hn, ?_⟩⟩, hspaces⟩
  · by_cases hnil : rest = []
    · exact Or.inl hnil
    · refine Or.inr ⟨fun hnothing => ?_, hopens⟩
      have hn : n ≠ 1 := by
        intro hn
        have hmem : '/' ∈ Url.kept rest := Url.mem_kept.mpr ⟨hslash hn, by decide⟩
        rw [hnothing] at hmem
        cases hmem
      have hhead : (rest ++ ['/']).head? ≠ some '/' := by rwa [List.head?_append_of_ne_nil _ hnil]
      have hstrip : (rest ++ ['/']).rdropWhile PyText.isSpace = rest ++ ['/'] :=
        rdropWhile_cons_of_neg rfl
      have hkept : Url.kept (rest ++ ['/']) = ['/'] := by
        rw [Url.kept_append, hnothing]
        rfl
      have hlaw := hsame.slash
      rw [hhost, slashed_append, canonicalPath_slashed, hstrip, looked_slashed n hhead,
        if_neg fun hboth => hn hboth.1, hkept] at hlaw
      exact not_finished_of_host rfl rfl (Nat.zero_le _) hlaw
  · have hsplit : rest.rdropWhile PyText.isSpace ++ rest.rtakeWhile PyText.isSpace = rest :=
      List.rdropWhile_append_rtakeWhile
    rw [← hsplit] at hmem
    exact dot_mem_of_append hmem fun hspace => absurd (List.mem_rtakeWhile_imp hspace) (by decide)

end Necessary

end Form

/-- The laws of a canonical path, as far as they go.  A text settles exactly when `urlsplit` accepts
its host and its path does not end in a space; a path keeps its form under a trailing slash, a
query, a fragment and a host exactly when it is plain. -/
theorem canonicalPath_laws_iff (check : NetlocCheck) :
    (∀ value, Settles check value ↔
      ∃ parts, Url.urlsplit check (prepared (PyText.stripChars value)) = some parts ∧
        ¬ EndsInSpace parts.path) ∧
    ∀ path, IsPath path → (SameForm check path ↔ Plain path) := by
  refine ⟨settles_iff check, fun path hpath => ?_⟩
  obtain ⟨n, rest, hslashed, hrest⟩ := exists_slashed hpath.rooted
  subst hslashed
  exact ⟨plain_of_sameForm hrest (isPath_slashed hpath),
    sameForm_of_plain hrest (isPath_slashed hpath)⟩

/-- Where the section settles, it does not matter whether it was made canonical before. -/
theorem isUnder_settled {check : NetlocCheck} {path sectionPath canonical : List Char}
    (hsettles : Settles check sectionPath) (h : canonicalPath check sectionPath = some canonical)
    (hknown : canonical ≠ UNKNOWN) : isUnder check path sectionPath =
      isUnder check path canonical := by
  obtain ⟨found, hfound, -, hagain⟩ := hsettles
  have hsame : found = canonical := Option.some.inj (hfound.symm.trans h)
  rw [hsame] at hagain
  have hne : sectionPath ≠ [] := by
    intro hnil
    rw [hnil] at h
    exact hknown (Option.some.inj h).symm
  unfold isUnder
  rw [h, hagain]
  by_cases hpath : path = []
  · rw [if_pos (Or.inl hpath), if_pos (Or.inl hpath)]
  · rw [if_neg fun hor => hor.elim hpath hne, if_neg fun hor => hor.elim hpath hknown]

/-- A check that knows no brackets and no character that normalisation would change. -/
def plainCheck : NetlocCheck where
  accepts netloc := netloc.all fun c => c ≠ '[' && c ≠ ']'
  plain netloc h := by
    rw [List.all_eq_true]
    intro c hc
    cases h c hc with
    | inl halpha =>
      have hbrackets : c ≠ '[' ∧ c ≠ ']' := by
        constructor
        · intro heq
          rw [heq] at halpha
          cases halpha
        · intro heq
          rw [heq] at halpha
          cases halpha
      simpa using hbrackets
    | inr hother =>
      cases hother with
      | inl hdot => rw [hdot]; decide
      | inr hdash => rw [hdash]; decide

/-- A space before the trailing slash outlasts the slash and is lost the second time; without the
slash it is lost at once.  An unbalanced bracket raises. -/
theorem canonicalPath_laws_fail :
    canonicalPath plainCheck ['/', 'x', ' ', '/'] = some ['/', 'x', ' '] ∧
    canonicalPath plainCheck ['/', 'x', ' '] = some ['/', 'x'] ∧
    ¬ Settles plainCheck ['/', 'x', ' ', '/'] ∧ ¬ SameForm plainCheck ['/', 'x', ' '] ∧
    canonicalPath plainCheck ['h', 't', 't', 'p', ':', '/', '/', '['] = none := by
  have hslash : canonicalPath plainCheck ['/', 'x', ' ', '/'] = some ['/', 'x', ' '] := by decide
  have hspace : canonicalPath plainCheck ['/', 'x', ' '] = some ['/', 'x'] := by decide
  refine ⟨hslash, hspace, ?_, ?_, by decide⟩
  · intro ⟨path, hpath, _, hagain⟩
    rw [hslash] at hpath
    rw [← Option.some.inj hpath, hspace] at hagain
    cases hagain
  · intro hsame
    have hlaw := hsame.slash
    rw [hspace] at hlaw
    cases hslash.symm.trans hlaw

end Dashkoda.Visibility
