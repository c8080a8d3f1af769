import Dashkoda.Lib.Dict
import Dashkoda.Lib.PyText
import Dashkoda.Lib.Regex

/-!
# Redaction for audit change summaries

Redaction runs inside `AuditEvent.save()`, so what it does to a summary is all that is ever kept of
the summary.
-/

open Lib

namespace Dashkoda.Audit

universe u v

def MASK : String := "[redacted]"

def MAX_VALUE_LENGTH : Nat := 500

/-- What stands after a text that was cut. -/
def truncationMarker : String := "…[truncated]"

section Keys

variable (classes : CharClasses)

/-- `first[-_]?second` -/
def joined (first second : String) : Regex :=
  .sequence [classes.literal first, .optional fun c => c = '-' || c = '_', classes.literal second]

/-- Matched anywhere in the key, so `viewer_pin_hash` and `HTTP_AUTHORIZATION` both match. -/
def SENSITIVE_KEY_PATTERN : Regex :=
  .anyOf [classes.literal "pin", classes.literal "password", classes.literal "passwd",
    classes.literal "secret", classes.literal "token", joined classes "api" "key",
    joined classes "private" "key", classes.literal "credential", classes.literal "authorization",
    joined classes "auth" "header", classes.literal "cookie", joined classes "session" "key",
    classes.literal "csrf", joined classes "connection" "string", classes.literal "dsn",
    classes.literal "salt", classes.literal "signature", classes.literal "hash"]

/-- Checksums are wanted facts, so they are exempt from the `hash` rule. -/
def ALLOWED_KEYS : List String := ["sha256", "import_key", "content_hash"]

def isSensitive (key : String) : Bool :=
  !ALLOWED_KEYS.contains key && (SENSITIVE_KEY_PATTERN classes).search key

example : isSensitive asciiClasses "HTTP_Api-Key" = true := by decide

example : isSensitive asciiClasses "content_hash" = false := by decide

end Keys

/-! ## Summaries -/

/-- A key of a Python dictionary: a text or some other hashable value. -/
inductive Key (κ : Type u)
  | text (name : String)
  | other (key : κ)

/-- What a caller may hand over: `leaf` is everything that is neither `None`, a text nor a
container. -/
inductive Value (κ : Type u) (α : Type v)
  | null
  | text (content : String)
  | leaf (x : α)
  | list (items : List (Value κ α))
  | tuple (items : List (Value κ α))
  | dict (entries : List (Key κ × Value κ α))

variable {κ : Type u} {α : Type v}

/-- `str(key)`, given the texts of the keys that are not texts. -/
def Key.str (render : κ → String) : Key κ → String
  | text name => name
  | other key => render key

namespace Value

def ofDict (d : Dict String (Value κ α)) : Value κ α :=
  dict (d.entries.map fun entry => (Key.text entry.1, entry.2))

mutual

/-- The strings stored anywhere in a value, the keys apart. -/
def texts : Value κ α → List String
  | null => []
  | text content => [content]
  | leaf _ => []
  | list items => itemTexts items
  | tuple items => itemTexts items
  | dict entries => entryTexts entries

def itemTexts : List (Value κ α) → List String
  | [] => []
  | item :: items => texts item ++ itemTexts items

def entryTexts : List (Key κ × Value κ α) → List String
  | [] => []
  | (_, value) :: entries => texts value ++ entryTexts entries

end

end Value

/-! ## Redaction -/

def truncated (text : String) : String :=
  if text.length > MAX_VALUE_LENGTH then
    PyText.take MAX_VALUE_LENGTH text ++ truncationMarker else text

section Redact

variable (classes : CharClasses) (render : κ → String)

mutual

def redactValue : Value κ α → Value κ α
  | .dict entries => .ofDict (Dict.ofList (redactEntries entries))
  | .list items => .list (redactItems items)
  | .tuple items => .list (redactItems items)
  | .text content => .text (truncated content)
  | .null => .null
  | .leaf x => .leaf x

def redactItems : List (Value κ α) → List (Value κ α)
  | [] => []
  | item :: items => redactValue item :: redactItems items

/-- The assignments of the loop over the entries, in their order. -/
def redactEntries : List (Key κ × Value κ α) → List (String × Value κ α)
  | [] => []
  | (key, value) :: entries =>
    (key.str render, if isSensitive classes (key.str render) then .text MASK else
      redactValue value) ::
      redactEntries entries

end

/-- A summary that is no dictionary cannot be inspected for secrets and is a `TypeError`. -/
def redact : Value κ α → Except String (Value κ α)
  | .null => .ok (.dict [])
  | .dict entries => .ok (.ofDict (Dict.ofList (redactEntries classes render entries)))
  | _ => .error "change_summary must be a dict"

mutual

/-- The two values differ at most in what is stored under sensitive keys. -/
inductive Agree : Value κ α → Value κ α → Prop
  | same (value : Value κ α) : Agree value value
  | list {items items' : List (Value κ α)} : AgreeItems items items' →
      Agree (.list items) (.list items')
  | tuple {items items' : List (Value κ α)} : AgreeItems items items' →
      Agree (.tuple items) (.tuple items')
  | dict {entries entries' : List (Key κ × Value κ α)} : AgreeEntries entries entries' →
      Agree (.dict entries) (.dict entries')

inductive AgreeItems : List (Value κ α) → List (Value κ α) → Prop
  | nil : AgreeItems [] []
  | cons {item item' : Value κ α} {items items' : List (Value κ α)} : Agree item item' →
      AgreeItems items items' → AgreeItems (item :: items) (item' :: items')

inductive AgreeEntries : List (Key κ × Value κ α) → List (Key κ × Value κ α) → Prop
  | nil : AgreeEntries [] []
  | secret {key : Key κ} (value value' : Value κ α) {entries entries' : List (Key κ × Value κ α)} :
      isSensitive classes (key.str render) = true → AgreeEntries entries entries' →
      AgreeEntries ((key, value) :: entries) ((key, value') :: entries')
  | kept (key : Key κ) {value value' : Value κ α} {entries entries' : List (Key κ × Value κ α)} :
      Agree value value' → AgreeEntries entries entries' →
      AgreeEntries ((key, value) :: entries) ((key, value') :: entries')

end

/-! ## What sensitive keys hide -/

section NonInterference

variable {classes render}

mutual

theorem Agree.redactValue_eq {value value' : Value κ α} (h : Agree classes render value value') :
    redactValue classes render value = redactValue classes render value' := by
  cases h with
  | same => rfl
  | list hitems =>
    unfold redactValue
    rw [hitems.redactItems_eq]
  | tuple hitems =>
    unfold redactValue
    rw [hitems.redactItems_eq]
  | dict hentries =>
    unfold redactValue
    rw [hentries.redactEntries_eq]

theorem AgreeItems.redactItems_eq {items items' : List (Value κ α)}
    (h : AgreeItems classes render items items') :
    redactItems classes render items = redactItems classes render items' := by
  cases h with
  | nil => rfl
  | cons hitem hitems =>
    unfold redactItems
    rw [hitem.redactValue_eq, hitems.redactItems_eq]

theorem AgreeEntries.redactEntries_eq {entries entries' : List (Key κ × Value κ α)}
    (h : AgreeEntries classes render entries entries') :
    redactEntries classes render entries = redactEntries classes render entries' := by
  cases h with
  | nil => rfl
  | secret value value' hsensitive hentries =>
    -- the key is sensitive on both sides, so neither value is looked at
    unfold redactEntries
    rw [if_pos hsensitive, if_pos hsensitive, hentries.redactEntries_eq]
  | kept key hvalue hentries =>
    unfold redactEntries
    rw [hvalue.redactValue_eq, hentries.redactEntries_eq]

end

theorem Agree.redact_eq {summary summary' : Value κ α} (h : Agree classes render summary summary') :
    redact classes render summary = redact classes render summary' := by
  cases h with
  | same => rfl
  | list => rfl
  | tuple => rfl
  | dict hentries =>
    show Except.ok (Value.ofDict (Dict.ofList (redactEntries classes render _))) = _
    rw [hentries.redactEntries_eq]
    rfl

end NonInterference

/-! ## Redacting once more -/

theorem length_take (text : String) (n : Nat) : (PyText.take n text).length ≤ n := by
  unfold PyText.take
  rw [← String.length_toList, String.toList_ofList, List.length_take]
  exact Nat.min_le_left n _

theorem length_truncated (text : String) :
    (truncated text).length ≤ MAX_VALUE_LENGTH + truncationMarker.length := by
  unfold truncated
  split
  · rw [String.length_append]
    exact Nat.add_le_add_right (length_take text _) _
  · omega

/-- A cut text is too long as well, and cutting it gives the same text. -/
theorem truncated_truncated (text : String) : truncated (truncated text) = truncated text := by
  by_cases hlong : text.length > MAX_VALUE_LENGTH
  · have htext : (text.toList.take MAX_VALUE_LENGTH).length = MAX_VALUE_LENGTH := by
      rw [List.length_take, String.length_toList]
      exact Nat.min_eq_left (Nat.le_of_lt hlong)
    have hcut : truncated text = PyText.take MAX_VALUE_LENGTH text ++ truncationMarker :=
      if_pos hlong
    have hchars : (truncated text).toList =
        text.toList.take MAX_VALUE_LENGTH ++ truncationMarker.toList := by
      rw [hcut, String.toList_append, PyText.take, String.toList_ofList]
    have hagain : (truncated text).length > MAX_VALUE_LENGTH := by
      rw [← String.length_toList, hchars, List.length_append, htext]
      have hmarker : truncationMarker.toList.length = 12 := by decide
      omega
    have hsame : PyText.take MAX_VALUE_LENGTH (truncated text) =
        PyText.take MAX_VALUE_LENGTH text := by
      show String.ofList ((truncated text).toList.take MAX_VALUE_LENGTH) = _
      rw [hchars, List.take_append_of_le_length (Nat.le_of_eq htext.symm), List.take_take,
        Nat.min_self]
      rfl
    show (if (truncated text).length > MAX_VALUE_LENGTH then _ else _) = _
    rw [if_pos hagain, hsame, hcut]
  · have hkept : truncated text = text := if_neg hlong
    rw [hkept, hkept]

/-- The entry is one that the loop leaves as it is. -/
def Redacted (pair : String × Value κ α) : Prop :=
  (if isSensitive classes pair.1 then .text MASK else redactValue classes render pair.2) = pair.2

theorem redactEntries_of_redacted {pairs : List (String × Value κ α)}
    (h : ∀ pair ∈ pairs, Redacted classes render pair) :
    redactEntries classes render (pairs.map fun pair => (Key.text pair.1, pair.2)) = pairs := by
  induction pairs with
  | nil => rfl
  | cons pair pairs ih =>
    have hpair :
        (if isSensitive classes pair.1 then .text MASK else redactValue classes render pair.2) =
        pair.2 := h pair List.mem_cons_self
    have hpairs := ih fun other hother => h other (List.mem_cons_of_mem _ hother)
    rw [List.map_cons]
    unfold redactEntries
    rw [hpairs]
    show (pair.1, _) :: pairs = _
    rw [show (Key.text pair.1 : Key κ).str render = pair.1 from rfl, hpair]

theorem ofDict_of_redacted {pairs : List (String × Value κ α)}
    (h : ∀ pair ∈ pairs, Redacted classes render pair) :
    Value.ofDict (Dict.ofList (redactEntries classes render
      ((Dict.ofList pairs).entries.map fun entry => (Key.text entry.1, entry.2)))) =
      Value.ofDict (Dict.ofList pairs) := by
  -- a repeated key took its last value, so the entries are among the pairs and have distinct keys
  have hentries : ∀ entry ∈ (Dict.ofList pairs).entries, Redacted classes render entry :=
    fun entry hentry => h entry (Dict.mem_of_mem_ofList hentry)
  rw [redactEntries_of_redacted classes render hentries]
  unfold Value.ofDict
  rw [Dict.entries_ofList (Dict.ofList pairs).keys_nodup]

mutual

theorem redactValue_redactValue (value : Value κ α) :
    redactValue classes render (redactValue classes render value) =
      redactValue classes render value := by
  cases value with
  | null => rfl
  | leaf x => rfl
  | text content =>
    show Value.text (truncated (truncated content)) = Value.text (truncated content)
    rw [truncated_truncated]
  | list items =>
    show Value.list (redactItems classes render (redactItems classes render items)) = _
    rw [redactItems_redactItems items]
    rfl
  | tuple items =>
    show Value.list (redactItems classes render (redactItems classes render items)) = _
    rw [redactItems_redactItems items]
    rfl
  | dict entries => exact ofDict_of_redacted classes render (redactEntries_redacted entries)

theorem redactItems_redactItems (items : List (Value κ α)) :
    redactItems classes render (redactItems classes render items) =
      redactItems classes render items := by
  cases items with
  | nil => rfl
  | cons item items =>
    show redactValue classes render (redactValue classes render item) ::
      redactItems classes render (redactItems classes render items) = _
    rw [redactValue_redactValue item, redactItems_redactItems items]
    rfl

theorem redactEntries_redacted (entries : List (Key κ × Value κ α)) :
    ∀ pair ∈ redactEntries classes render entries, Redacted classes render pair := by
  cases entries with
  | nil => exact fun pair hpair => absurd hpair List.not_mem_nil
  | cons entry entries =>
    obtain ⟨key, value⟩ := entry
    intro pair hpair
    unfold redactEntries at hpair
    cases List.mem_cons.mp hpair with
    | inr hrest => exact redactEntries_redacted entries pair hrest
    | inl hfirst =>
      rw [hfirst]
      unfold Redacted
      by_cases hsensitive : isSensitive classes (key.str render) = true
      · simp only [if_pos hsensitive]
      · simp only [if_neg hsensitive]
        exact redactValue_redactValue value

end

theorem redact_redact {summary redacted : Value κ α}
    (h : redact classes render summary = .ok redacted) :
    redact classes render redacted = .ok redacted := by
  cases summary with
  | null =>
    cases h
    rfl
  | dict entries =>
    have hredacted := Except.ok.inj h
    rw [← hredacted]
    exact congrArg Except.ok
      (ofDict_of_redacted classes render (redactEntries_redacted classes render entries))
  | text => cases h
  | leaf => cases h
  | list => cases h
  | tuple => cases h

/-! ## The strings that are kept -/

/-- Every string leaf is within the limit and the marker. -/
def Bounded (value : Value κ α) : Prop :=
  ∀ text ∈ value.texts, text.length ≤ MAX_VALUE_LENGTH + truncationMarker.length

theorem mem_entryTexts {entries : List (Key κ × Value κ α)} {text : String} :
    text ∈ Value.entryTexts entries ↔ ∃ entry ∈ entries, text ∈ entry.2.texts := by
  induction entries with
  | nil => simp [Value.entryTexts]
  | cons entry entries ih => simp [Value.entryTexts, ih]

theorem mem_itemTexts {items : List (Value κ α)} {text : String} :
    text ∈ Value.itemTexts items ↔ ∃ item ∈ items, text ∈ item.texts := by
  induction items with
  | nil => simp [Value.itemTexts]
  | cons item items ih => simp [Value.itemTexts, ih]

theorem bounded_list {items : List (Value κ α)} (h : ∀ item ∈ items, Bounded item) :
    Bounded (.list items) := by
  intro text htext
  obtain ⟨item, hitem, hmem⟩ := mem_itemTexts.mp htext
  exact h item hitem text hmem

theorem bounded_ofDict {pairs : List (String × Value κ α)} (h : ∀ pair ∈ pairs, Bounded pair.2) :
    Bounded (Value.ofDict (Dict.ofList pairs)) := by
  intro text htext
  obtain ⟨entry, hentry, hmem⟩ := mem_entryTexts.mp htext
  obtain ⟨pair, hpair, heq⟩ := List.mem_map.mp hentry
  subst heq
  exact h pair (Dict.mem_of_mem_ofList hpair) text hmem

theorem bounded_text {text : String}
    (h : text.length ≤ MAX_VALUE_LENGTH + truncationMarker.length) :
    Bounded (.text text : Value κ α) :=
  fun _ hmem => List.mem_singleton.mp hmem ▸ h

mutual

theorem bounded_redactValue (value : Value κ α) : Bounded (redactValue classes render value) := by
  cases value with
  | null => exact fun _ hmem => absurd hmem List.not_mem_nil
  | leaf x => exact fun _ hmem => absurd hmem List.not_mem_nil
  | text content => exact bounded_text (length_truncated content)
  | list items => exact bounded_list (bounded_redactItems items)
  | tuple items => exact bounded_list (bounded_redactItems items)
  | dict entries => exact bounded_ofDict (bounded_redactEntries entries)

theorem bounded_redactItems (items : List (Value κ α)) :
    ∀ item ∈ redactItems classes render items, Bounded item := by
  cases items with
  | nil => exact fun _ hmem => absurd hmem List.not_mem_nil
  | cons first items =>
    intro item hitem
    unfold redactItems at hitem
    cases List.mem_cons.mp hitem with
    | inl hfirst => exact hfirst ▸ bounded_redactValue first
    | inr hrest => exact bounded_redactItems items item hrest

theorem bounded_redactEntries (entries : List (Key κ × Value κ α)) :
    ∀ pair ∈ redactEntries classes render entries, Bounded pair.2 := by
  cases entries with
  | nil => exact fun _ hmem => absurd hmem List.not_mem_nil
  | cons entry entries =>
    obtain ⟨key, value⟩ := entry
    intro pair hpair
    unfold redactEntries at hpair
    cases List.mem_cons.mp hpair with
    | inr hrest => exact bounded_redactEntries entries pair hrest
    | inl hfirst =>
      rw [hfirst]
      by_cases hsensitive : isSensitive classes (key.str render) = true
      · rw [if_pos hsensitive]
        exact bounded_text (by decide)
      · rw [if_neg hsensitive]
        exact bounded_redactValue value

end

theorem bounded_redact {summary redacted : Value κ α}
    (h : redact classes render summary = .ok redacted) :
    Bounded redacted := by
  cases summary with
  | null =>
    cases h
    exact fun _ hmem => absurd hmem List.not_mem_nil
  | dict entries =>
    exact Except.ok.inj h ▸ bounded_ofDict (bounded_redactEntries classes render entries)
  | text => cases h
  | leaf => cases h
  | list => cases h
  | tuple => cases h

/-- Secrets do not show in what is kept, keeping it once more changes nothing, and no text grows
past the limit and its marker. -/
theorem redact_hides_and_settles (classes : CharClasses) (render : κ → String) :
    (∀ summary summary' : Value κ α, Agree classes render summary summary' →
      redact classes render summary = redact classes render summary') ∧
    (∀ summary redacted : Value κ α, redact classes render summary = .ok redacted →
      redact classes render redacted = .ok redacted) ∧
    ∀ summary redacted : Value κ α, redact classes render summary = .ok redacted →
      ∀ text ∈ redacted.texts, text.length ≤ MAX_VALUE_LENGTH + truncationMarker.length :=
  ⟨fun _ _ h => h.redact_eq, fun _ _ h => redact_redact classes render h,
    fun _ _ h => bounded_redact classes render h⟩

end Redact

end Dashkoda.Audit
