import Mathlib.Data.List.Basic

/-!
# Separated values

The reader of a text of separated values goes through it character by character; at the end of each
line it is told so.  A quoted field may hold separators, line ends and doubled quotes.
-/

namespace Lib

namespace Csv

inductive State
  | startRecord
  | startField
  | inField
  | inQuotedField
  | quoteInQuotedField
  | eatNewline
  deriving DecidableEq, Repr

/-- What has been read of a record: the saved fields and the open one, each with the last first. -/
structure Scan where
  state : State
  field : List Char
  fields : List String
  deriving DecidableEq

def Scan.fresh : Scan := ⟨.startRecord, [], []⟩

inductive CsvError
  | fieldTooLong
  | newlineInField
  deriving DecidableEq, Repr

def fieldLimit : Nat := 131072

def Scan.save (scan : Scan) (state : State) : Scan :=
  ⟨state, [], String.ofList scan.field.reverse :: scan.fields⟩

def Scan.add (scan : Scan) (state : State) (c : Char) : Except CsvError Scan :=
  if fieldLimit ≤ scan.field.length then .error .fieldTooLong
  else .ok { scan with state, field := c :: scan.field }

def isNewline (c : Char) : Bool := c = '\n' || c = '\r'

def feedField (separator : Char) (scan : Scan) (c : Char) : Except CsvError Scan :=
  if isNewline c then .ok (scan.save .eatNewline)
  else if c = '"' then .ok { scan with state := .inQuotedField }
  else if c = separator then .ok (scan.save .startField)
  else scan.add .inField c

/-- One character of the text. -/
def feed (separator : Char) (scan : Scan) (c : Char) : Except CsvError Scan :=
  match scan.state with
  | .startRecord =>
    if isNewline c then .ok { scan with state := .eatNewline } else feedField separator scan c
  | .startField => feedField separator scan c
  | .inField =>
    if isNewline c then .ok (scan.save .eatNewline)
    else if c = separator then .ok (scan.save .startField)
    else scan.add .inField c
  | .inQuotedField =>
    if c = '"' then .ok { scan with state := .quoteInQuotedField } else scan.add .inQuotedField c
  | .quoteInQuotedField =>
    if c = '"' then scan.add .inQuotedField c
    else if c = separator then .ok (scan.save .startField)
    else if isNewline c then .ok (scan.save .eatNewline)
    else scan.add .inField c
  | .eatNewline => if isNewline c then .ok scan else .error .newlineInField

def endLine (scan : Scan) : Scan :=
  match scan.state with
  | .startRecord | .inQuotedField => scan
  | .startField | .inField | .quoteInQuotedField => scan.save .startRecord
  | .eatNewline => { scan with state := .startRecord }

/-- The records of a text, and the error they end in. -/
def records (separator : Char) : Scan → List Char → List (List String) × Option CsvError
  | scan, [] =>
    if scan.state = .inQuotedField then
      ([(scan.save .startRecord).fields.reverse], none) else ([], none)
  | scan, c :: rest =>
    match feed separator scan c with
    | .error error => ([], some error)
    | .ok next =>
      if c = '\n' ∨ rest = [] then
        let ended := endLine next
        if ended.state = .startRecord then
          let others := records separator .fresh rest
          (ended.fields.reverse :: others.1, others.2)
        else records separator ended rest
      else records separator next rest

example : records ';' .fresh "a;\"b;\"\"c\n\"\r\n\n;d".toList =
    ([["a", "b;\"c\n"], [], ["", "d"]], none) := by decide +kernel

/-! ## How many records there are -/

/-- Every record has a character of its own, but for a last one that stands open. -/
theorem length_records_le (separator : Char) (scan : Scan) (text : List Char) :
    (records separator scan text).1.length ≤ text.length + 1 := by
  fun_induction records separator scan text with
  | case1 | case2 | case3 => simp
  | case4 scan c rest next hfeed hend ended hstart others ih =>
    rw [List.length_cons, List.length_cons]
    exact Nat.succ_le_succ ih
  | case5 scan c rest next hfeed hend ended hstart ih =>
    rw [List.length_cons]
    omega
  | case6 scan c rest next hfeed hend ih =>
    rw [List.length_cons]
    omega

/-! ## Reading back what is written -/

def escape (text : List Char) : List Char :=
  text.flatMap fun c => if c = '"' then ['"', '"'] else [c]

def quoted (cell : String) : List Char := '"' :: (escape cell.toList ++ ['"'])

def writeCells (separator : Char) : List String → List Char
  | [] => []
  | [cell] => quoted cell
  | cell :: cells => quoted cell ++ separator :: writeCells separator cells

/-- Every cell quoted, a line for each row. -/
def write (separator : Char) (rows : List (List String)) : List Char :=
  rows.flatMap fun row => writeCells separator row ++ ['\r', '\n']

section Written

variable {separator : Char} {scan next : Scan} {rest : List Char}

theorem records_cons_inside {c : Char} (hfeed : feed separator scan c = .ok next)
    (hinside : c = '\n' → next.state = .inQuotedField) (hrest : rest ≠ []) :
    records separator scan (c :: rest) = records separator next rest := by
  conv_lhs => unfold records
  rw [hfeed]
  dsimp only
  by_cases hline : c = '\n'
  · have hstate := hinside hline
    have hended : endLine next = next := by
      unfold endLine
      rw [hstate]
    have hopen : ¬ next.state = .startRecord := by
      rw [hstate]
      exact State.noConfusion
    rw [if_pos (Or.inl hline), hended, if_neg hopen]
  · rw [if_neg (fun h => h.elim hline hrest)]

theorem records_quoted {field : List Char} {fields : List String} {cell : List Char}
    (hrest : rest ≠ [])
    (hlength : field.length + cell.length ≤ fieldLimit) :
    records separator ⟨.inQuotedField, field, fields⟩ (escape cell ++ '"' :: rest) =
      records separator ⟨.quoteInQuotedField, cell.reverse ++ field, fields⟩ rest := by
  induction cell generalizing field with
  | nil => exact records_cons_inside rfl (fun h => absurd h (by decide)) hrest
  | cons c cell ih =>
    rw [List.length_cons] at hlength
    have hroom : ¬ fieldLimit ≤ field.length := by omega
    have hadd : Scan.add ⟨.inQuotedField, field, fields⟩ .inQuotedField c =
        .ok ⟨.inQuotedField, c :: field, fields⟩ :=
      if_neg hroom
    have htail : (c :: cell).reverse ++ field = cell.reverse ++ c :: field := by
      rw [List.reverse_cons, List.append_assoc, List.singleton_append]
    have hnext := @ih (c :: field) (by rw [List.length_cons]; omega)
    have hne : escape cell ++ '"' :: rest ≠ [] :=
      List.append_ne_nil_of_right_ne_nil _ (List.cons_ne_nil _ _)
    rw [htail, ← hnext]
    unfold escape
    rw [List.flatMap_cons]
    by_cases hquote : c = '"'
    · rw [if_pos hquote, hquote]
      rw [hquote] at hadd
      have hopens : feed separator ⟨.inQuotedField, field, fields⟩ '"' =
        .ok ⟨.quoteInQuotedField, field, fields⟩ := rfl
      have hadds : feed separator ⟨.quoteInQuotedField, field, fields⟩ '"' =
          .ok ⟨.inQuotedField, '"' :: field, fields⟩ :=
        if_neg hroom
      exact (records_cons_inside hopens (fun h => absurd h (by decide))
        (List.cons_ne_nil _ _)).trans
        (records_cons_inside hadds (fun h => absurd h (by decide)) hne)
    · rw [if_neg hquote]
      have hfeed : feed separator ⟨.inQuotedField, field, fields⟩ c =
          .ok ⟨.inQuotedField, c :: field, fields⟩ :=
        (if_neg hquote).trans hadd
      exact records_cons_inside hfeed (fun _ => rfl) hne

/-- A record is not begun, or only its separator was read. -/
def Begins (state : State) : Prop := state = .startRecord ∨ state = .startField

theorem feed_quote {state : State} (hbegins : Begins state) (fields : List String) :
    feed separator ⟨state, [], fields⟩ '"' = .ok ⟨.inQuotedField, [], fields⟩ := by
  cases hbegins with
  | inl h => rw [h]; rfl
  | inr h => rw [h]; rfl

theorem records_cell {state : State} (hbegins : Begins state) {fields : List String} {cell : String}
    (hlength : cell.length ≤ fieldLimit) (hrest : rest ≠ []) :
    records separator ⟨state, [], fields⟩ (quoted cell ++ rest) =
      records separator ⟨.quoteInQuotedField, cell.toList.reverse, fields⟩ rest := by
  have hcell : ([] : List Char).length + cell.toList.length ≤ fieldLimit := by
    rw [List.length_nil, String.length_toList]
    omega
  have hscan : records separator ⟨.inQuotedField, [], fields⟩
      (escape cell.toList ++ '"' :: rest) = _ :=
    records_quoted hrest hcell
  rw [List.append_nil] at hscan
  unfold quoted
  rw [List.cons_append, List.append_assoc, List.singleton_append, ← hscan]
  exact records_cons_inside (feed_quote hbegins fields) (fun h => absurd h (by decide))
    (List.append_ne_nil_of_right_ne_nil _ (List.cons_ne_nil _ _))

/-- A line end after a quoted cell, or at the start of a record, ends the record. -/
theorem records_lineEnd {field : List Char} {fields saved : List String} {state : State}
    (hnext : feed separator ⟨state, field, fields⟩ '\r' = .ok ⟨.eatNewline, [], saved⟩) :
    records separator ⟨state, field, fields⟩ ('\r' :: '\n' :: rest) =
      (saved.reverse :: (records separator .fresh rest).1, (records separator .fresh rest).2) := by
  rw [records_cons_inside hnext (fun h => absurd h (by decide)) (List.cons_ne_nil _ _)]
  rfl

theorem save_cell (state state' : State) (cell : String) (fields : List String) :
    Scan.save ⟨state, cell.toList.reverse, fields⟩ state' = ⟨state', [], cell :: fields⟩ := by
  unfold Scan.save
  rw [List.reverse_reverse, String.ofList_toList]

structure Separates (separator : Char) : Prop where
  not_quote : separator ≠ '"'
  not_newline : isNewline separator = false

theorem records_row (hseparates : Separates separator) {state : State} (hbegins : Begins state)
    {fields : List String} {cells : List String} (hcells : cells ≠ [])
    (hlength : ∀ cell ∈ cells, cell.length ≤ fieldLimit) :
    records separator ⟨state, [], fields⟩ (writeCells separator cells ++ '\r' :: '\n' :: rest) =
      ((fields.reverse ++ cells) :: (records separator .fresh rest).1,
        (records separator .fresh rest).2) := by
  induction cells generalizing state fields with
  | nil => exact absurd rfl hcells
  | cons cell cells ih =>
    have hcell := hlength cell List.mem_cons_self
    cases cells with
    | nil =>
      have hends : feed separator ⟨.quoteInQuotedField, cell.toList.reverse, fields⟩ '\r' =
          .ok ⟨.eatNewline, [], cell :: fields⟩ := by
        have hne : ¬ '\r' = separator := fun heq => by
          have hnewline := hseparates.not_newline
          rw [← heq] at hnewline
          cases hnewline
        unfold feed
        dsimp only
        rw [if_neg (by decide), if_neg hne, if_pos (by decide), save_cell]
      show records separator _ (quoted cell ++ '\r' :: '\n' :: rest) = _
      rw [records_cell hbegins hcell (List.cons_ne_nil _ _), records_lineEnd hends,
        List.reverse_cons]
    | cons other cells =>
      have hsaves : feed separator ⟨.quoteInQuotedField, cell.toList.reverse, fields⟩ separator =
          .ok ⟨.startField, [], cell :: fields⟩ := by
        unfold feed
        dsimp only
        rw [if_neg hseparates.not_quote, if_pos rfl, save_cell]
      have hline : separator = '\n' → (⟨.startField, [], cell :: fields⟩ : Scan).state =
          .inQuotedField := fun heq => by
        have hnewline := hseparates.not_newline
        rw [heq] at hnewline
        cases hnewline
      have hrest : writeCells separator (other :: cells) ++ '\r' :: '\n' :: rest ≠ [] :=
        List.append_ne_nil_of_right_ne_nil _ (List.cons_ne_nil _ _)
      have hothers : records separator ⟨.startField, [], cell :: fields⟩ _ = _ :=
        ih (Or.inr rfl) (List.cons_ne_nil _ _) fun x hx => hlength x (List.mem_cons_of_mem _ hx)
      show records separator _ (quoted cell ++ separator :: writeCells separator
        (other :: cells) ++ '\r' :: '\n' :: rest) = _
      rw [List.append_assoc, List.cons_append, records_cell hbegins hcell (List.cons_ne_nil _ _),
        records_cons_inside hsaves hline hrest, hothers, List.reverse_cons, List.append_assoc,
        List.singleton_append]

/-- What is written with every cell quoted is read back, row by row and cell by cell. -/
theorem records_write (hseparates : Separates separator) {rows : List (List String)}
    (hlength : ∀ row ∈ rows, ∀ cell ∈ row, cell.length ≤ fieldLimit) :
    records separator .fresh (write separator rows) = (rows, none) := by
  induction rows with
  | nil => rfl
  | cons row rows ih =>
    have hrows := ih fun other hother => hlength other (List.mem_cons_of_mem _ hother)
    have hwrite : write separator (row :: rows) =
        writeCells separator row ++ '\r' :: '\n' :: write separator rows := by
      unfold write
      rw [List.flatMap_cons, List.append_assoc]
      rfl
    rw [hwrite]
    cases row with
    | nil =>
      have hends : feed separator ⟨.startRecord, [], []⟩ '\r' = .ok ⟨.eatNewline, [], []⟩ := rfl
      have hread : records separator _ ('\r' :: '\n' :: write separator rows) = _ :=
        records_lineEnd hends
      rw [hrows] at hread
      exact hread
    | cons cell cells =>
      have hread : records separator ⟨.startRecord, [], []⟩
          (_ ++ '\r' :: '\n' :: write separator rows) = _ :=
        records_row hseparates (Or.inl rfl) (List.cons_ne_nil cell cells)
          (hlength _ List.mem_cons_self)
      rw [hrows] at hread
      exact hread

end Written

end Csv

end Lib
