import Mathlib.Data.List.Basic
import Mathlib.Data.Set.Function
import Dashkoda.Lib.CrashProg
import Dashkoda.Lib.Except

/-!
# The managed blob store

Writes go to a temporary file, are verified there and then renamed.  Programs run step by step on
a file system that may refuse any step, may leave anything in a file being written, and may crash
between two steps.
-/

open Lib

namespace Dashkoda.LegalWork

abbrev Bytes := List UInt8

abbrev FileName := List Char

/-- An absolute path, resolved. -/
abbrev FilePath := List FileName

/-! ## The file system -/

/-- The files that exist, with their bytes.  No modelled function creates a link, and directories
are not tracked: a step that needs one may fail. -/
abbrev Files := FilePath → Option Bytes

inductive StorageExn where
  | osError
  | storageError (message : String)
  | blobMismatch (message : String)
deriving DecidableEq, Repr

inductive FsOp where
  | pathExists (path : FilePath)
  | size (path : FilePath)
  | readBytes (path : FilePath)
  | mkdir (path : FilePath)
  | mkstemp (dir : FilePath) (suffix : FileName)
  /-- Write to the open handle, flush, fsync and close. -/
  | write (path : FilePath) (payload : Bytes)
  | replace (src dst : FilePath)
  | unlink (path : FilePath)
  | openDirectory (path : FilePath)
  | fsync (path : FilePath)
  | close (path : FilePath)

/-- What an operation answers when it succeeds. -/
def FsOp.Out : FsOp → Type
  | .pathExists _ => Bool
  | .size _ => Nat
  | .readBytes _ => Bytes
  | .mkstemp _ _ => FilePath
  | _ => Unit

inductive FsStep : Files → (o : FsOp) → Except StorageExn o.Out → Files → Prop
  | refused (s : Files) (o : FsOp) : FsStep s o (.error .osError) s
  | pathExists (s : Files) (path) : FsStep s (.pathExists path) (.ok (s path).isSome) s
  | size (s : Files) (path) (bytes : Bytes) : s path = some bytes →
      FsStep s (.size path) (.ok bytes.length) s
  | readBytes (s : Files) (path) (bytes : Bytes) : s path = some bytes →
      FsStep s (.readBytes path) (.ok bytes) s
  | mkdir (s : Files) (path) : FsStep s (.mkdir path) (.ok ()) s
  | mkstemp (s : Files) (dir suffix) (name : FileName) : s (dir ++ [name ++ suffix]) = none →
      FsStep s (.mkstemp dir suffix) (.ok (dir ++ [name ++ suffix]))
        (Function.update s (dir ++ [name ++ suffix]) (some []))
  /-- Whether or not the write is reported as done, the file holds whatever reached the disk. -/
  | write (s : Files) (path payload) (left : Bytes) (answer : Except StorageExn Unit) :
      FsStep s (.write path payload) answer (Function.update s path (some left))
  | replace (s : Files) (src dst) (bytes : Bytes) : s src = some bytes →
      FsStep s (.replace src dst) (.ok ())
        (Function.update (Function.update s src none) dst (some bytes))
  | unlink (s : Files) (path) : FsStep s (.unlink path) (.ok ()) (Function.update s path none)
  | openDirectory (s : Files) (path) : FsStep s (.openDirectory path) (.ok ()) s
  | fsync (s : Files) (path) : FsStep s (.fsync path) (.ok ()) s
  | close (s : Files) (path) : FsStep s (.close path) (.ok ()) s

abbrev Storage (α : Type) := ExceptT StorageExn (Prog FsOp fun o => Except StorageExn o.Out) α

/-- The files an operation may change. -/
def FsOp.Touches : FsOp → FilePath → Prop
  | .mkstemp dir _, path => path.dropLast = dir
  | .write target _, path => path = target
  | .replace src dst, path => path = src ∨ path = dst
  | .unlink target, path => path = target
  | _, _ => False

/-- A step changes no other file. -/
theorem FsStep.frame {s t : Files} {o : FsOp} {answer : Except StorageExn o.Out}
    (hstep : FsStep s o answer t) {path : FilePath} (hpath : ¬ o.Touches path) :
    t path = s path := by
  cases hstep with
  | mkstemp dir suffix name _ =>
    apply Function.update_of_ne
    intro heq
    apply hpath
    rw [heq]
    exact List.dropLast_concat
  | write target _ left => exact Function.update_of_ne hpath _ _
  | replace src dst bytes _ =>
    rw [Function.update_of_ne (fun h => hpath (Or.inr h)),
      Function.update_of_ne (fun h => hpath (Or.inl h))]
  | unlink target => exact Function.update_of_ne hpath _ _
  | _ => rfl

/-! ## Keys and paths -/

def BLOBS_DIR : FileName := "blobs".toList
def TEMPORARY_DIR : FileName := "temporary".toList
def QUARANTINE_DIR : FileName := "quarantine".toList
def FANOUT : Nat := 2

/-- `/`-separated text. -/
def joinKey (parts : List FileName) : List Char := ['/'].intercalate parts

/-- One component of a key, walked from the directory reached so far. -/
def walk (base : FilePath) (part : FileName) : FilePath :=
  if part = [] ∨ part = ['.'] then base
  else if part = ['.', '.'] then base.dropLast
  else base ++ [part]

/-- `(root / key).resolve()` -/
def resolvePath (root : FilePath) (key : List Char) : FilePath :=
  let base := if key.head? = some '/' then [] else root
  (key.splitOn '/').foldl walk base

def resolveWithinStore (root : FilePath) (key : List Char) : Except StorageExn FilePath :=
  let candidate := resolvePath root key
  if root <+: candidate then .ok candidate
  else .error (.storageError "Refusing a storage key that resolves outside the store.")

def isHexDigest (digest : List Char) : Bool :=
  digest.length = 64 && digest.all (· ∈ "0123456789abcdef".toList)

def storageKey (digest : List Char) : Except StorageExn (List Char) :=
  if !isHexDigest digest then
    .error (.storageError "A storage key needs a lower-case hex SHA-256 digest.")
  else .ok (joinKey [BLOBS_DIR, digest.take FANOUT, digest ++ ".pdf".toList])

def blobPath (root : FilePath) (digest : List Char) : Except StorageExn FilePath :=
  (storageKey digest).map (resolvePath root)

structure StoredBlob where
  digest : List Char
  key : List Char
  byteSize : Nat
  reused : Bool
deriving DecidableEq, Repr

/-! ## The three calls -/

section Programs

/- The digest function, `str.isalnum` and the store root. -/
variable (hash : Bytes → List Char) (isAlnum : Char → Bool) (root : FilePath)

def pathExists (path : FilePath) : Storage Bool := perform (FsOp.pathExists path)
def statSize (path : FilePath) : Storage Nat := perform (FsOp.size path)
def readBytes (path : FilePath) : Storage Bytes := perform (FsOp.readBytes path)
def mkdir (path : FilePath) : Storage Unit := perform (FsOp.mkdir path)
def mkstemp (dir : FilePath) (suffix : FileName) : Storage FilePath :=
  perform (FsOp.mkstemp dir suffix)
def writeBytes (path : FilePath) (payload : Bytes) : Storage Unit :=
  perform (FsOp.write path payload)
def replace (src dst : FilePath) : Storage Unit := perform (FsOp.replace src dst)
def unlink (path : FilePath) : Storage Unit := perform (FsOp.unlink path)

/-- `if temporary.exists(): temporary.unlink(missing_ok=True)` -/
def removeTemporary (temporary : FilePath) : Storage Unit := do
  if ← pathExists temporary then unlink temporary

/-- A directory that cannot be opened or synced is passed over; closing it may still raise. -/
def fsyncDirectory (path : FilePath) : Storage Unit := do
  let opened ← attempt (FsOp.openDirectory path)
  if opened.isOk then
    let _ ← attempt (FsOp.fsync path)
    perform (FsOp.close path)

def verifyTemporary (payload : Bytes) (temporary : FilePath) : Storage Unit := do
  let written ← statSize temporary
  if written ≠ payload.length then
    throw (.storageError "A managed blob was not written in full.")
  let stored ← readBytes temporary
  if hash stored ≠ hash payload then
    throw (.blobMismatch "A managed blob failed verification before being published.")

def ensureDirectories : Storage Unit := do
  mkdir (root ++ [BLOBS_DIR])
  mkdir (root ++ [TEMPORARY_DIR])
  mkdir (root ++ [QUARANTINE_DIR])

def storeBlob (payload : Bytes) (expectedDigest : Option (List Char)) : Storage StoredBlob := do
  let digest := hash payload
  if expectedDigest.any (· ≠ digest) then
    throw (.blobMismatch "The document did not hash to the digest it was announced under.")
  let key ← storageKey digest
  let final ← resolveWithinStore root key
  if ← pathExists final then
    let existing ← statSize final
    if existing ≠ payload.length then
      throw (.blobMismatch
        "A stored blob disagrees in size with new bytes carrying the same digest.")
    return { digest, key, byteSize := payload.length, reused := true }
  mkdir final.dropLast
  mkdir (root ++ [TEMPORARY_DIR])
  let temporary ← mkstemp (root ++ [TEMPORARY_DIR]) ".part".toList
  try
    writeBytes temporary payload
    verifyTemporary hash payload temporary
    replace temporary final
  finally
    removeTemporary temporary
  fsyncDirectory final.dropLast
  return { digest, key, byteSize := payload.length, reused := false }

/-- `"".join(c for c in reason if c.isalnum() or c in "-_")[:40] or "unknown"` -/
def safeReason (reason : List Char) : List Char :=
  let kept := (reason.filter fun c => isAlnum c || c = '-' || c = '_').take 40
  if kept = [] then "unknown".toList else kept

def quarantineKey (digest reason : List Char) : List Char :=
  joinKey [QUARANTINE_DIR, digest.take FANOUT,
    digest ++ '.' :: safeReason isAlnum reason ++ ".bin".toList]

def quarantineBlob (payload : Bytes) (digest reason : List Char) : Storage (List Char) := do
  let key := quarantineKey isAlnum digest reason
  let target ← resolveWithinStore root key
  if ← pathExists target then return key
  mkdir target.dropLast
  let temporary ← mkstemp (root ++ [TEMPORARY_DIR]) ".part".toList
  try
    writeBytes temporary payload
    replace temporary target
  finally
    removeTemporary temporary
  return key

def readBlob (digest : List Char) : Storage Bytes := do
  let path ← blobPath root digest
  if !(← pathExists path) then
    throw (.storageError "The managed blob is missing from the store.")
  readBytes path

inductive Call where
  | storeBlob (payload : Bytes) (expectedDigest : Option (List Char))
  | quarantineBlob (payload : Bytes) (digest reason : List Char)
  | readBlob (digest : List Char)
deriving DecidableEq, Repr

inductive Reply where
  | stored (blob : StoredBlob)
  | quarantined (key : List Char)
  | content (bytes : Bytes)
deriving DecidableEq, Repr

def Call.program : Call → Storage Reply
  | .storeBlob payload expectedDigest => do
    return .stored (← LegalWork.storeBlob hash root payload expectedDigest)
  | .quarantineBlob payload digest reason => do
    return .quarantined (← LegalWork.quarantineBlob isAlnum root payload digest reason)
  | .readBlob digest => do
    return .content (← LegalWork.readBlob root digest)

/-- Calls made one after the other, each of which may crash. -/
abbrev StoreRun : Files → List (Call × Option (Except StorageExn Reply)) → Files → Prop :=
  CallRun FsStep fun call => (call.program hash isAlnum root).run

end Programs

/-! ## The blobs tree -/

def UnderBlobs (root path : FilePath) : Prop := root ++ [BLOBS_DIR] <+: path

/-- Nothing under the blobs tree differs. -/
def SameBlobs (root : FilePath) (s t : Files) : Prop :=
  ∀ path, UnderBlobs root path → t path = s path

theorem SameBlobs.refl (root : FilePath) (s : Files) : SameBlobs root s s := fun _ _ => rfl

theorem SameBlobs.trans {root : FilePath} {s t u : Files} (hst : SameBlobs root s t)
    (htu : SameBlobs root t u) : SameBlobs root s u :=
  fun path hpath => (htu path hpath).trans (hst path hpath)

theorem FsStep.sameBlobs {root : FilePath} {s t : Files} {o : FsOp}
    {answer : Except StorageExn o.Out} (hstep : FsStep s o answer t)
    (ho : ∀ path, o.Touches path → ¬ UnderBlobs root path) : SameBlobs root s t :=
  fun path hpath => hstep.frame fun htouch => ho path htouch hpath

theorem underBlobs_append (root : FilePath) (name : FileName) (rest : FilePath) :
    UnderBlobs root (root ++ name :: rest) ↔ name = BLOBS_DIR := by
  unfold UnderBlobs
  rw [List.prefix_append_right_inj]
  constructor
  · intro h
    exact ((List.cons_prefix_cons.mp h).1).symm
  · intro h
    rw [h]
    exact List.prefix_append [BLOBS_DIR] rest

/-! ## Where the keys lead -/

/-- A key of plain names is walked from the store root. -/
theorem resolvePath_joinKey {root : FilePath} {first : FileName} {rest : List FileName}
    (hne : first ≠ []) (hparts : ∀ part ∈ first :: rest, '/' ∉ part) :
    resolvePath root (joinKey (first :: rest)) = (first :: rest).foldl walk root := by
  have hsplit : (joinKey (first :: rest)).splitOn '/' = first :: rest :=
    List.splitOn_intercalate '/' hparts (List.cons_ne_nil _ _)
  obtain ⟨c, cs, hfirst⟩ := List.exists_cons_of_ne_nil hne
  have hhead : (joinKey (first :: rest)).head? = some c := by
    unfold joinKey
    rw [hfirst]
    cases rest <;> rfl
  have hc : c ≠ '/' := by
    intro heq
    apply hparts first List.mem_cons_self
    rw [hfirst, heq]
    exact List.mem_cons_self
  unfold resolvePath
  rw [hsplit, hhead, if_neg (fun h => hc (Option.some.inj h))]

theorem length_of_isHexDigest {digest : List Char} (h : isHexDigest digest = true) :
    digest.length = 64 := by
  unfold isHexDigest at h
  rw [Bool.and_eq_true] at h
  exact of_decide_eq_true h.1

theorem not_mem_of_isHexDigest {digest : List Char} (h : isHexDigest digest = true) {c : Char}
    (hc : c ∉ "0123456789abcdef".toList) : c ∉ digest := by
  unfold isHexDigest at h
  rw [Bool.and_eq_true] at h
  intro hmem
  have := List.all_eq_true.mp h.2 c hmem
  exact hc (of_decide_eq_true this)

theorem walk_name {base : FilePath} {part : FileName} (hnil : part ≠ []) (hdot : part ≠ ['.'])
    (hdots : part ≠ ['.', '.']) : walk base part = base ++ [part] := by
  unfold walk
  rw [if_neg (fun h => h.elim hnil hdot), if_neg hdots]

theorem walk_long {base : FilePath} {part : FileName} (h : 2 < part.length) :
    walk base part = base ++ [part] := by
  apply walk_name <;> intro heq <;> rw [heq] at h <;> simp at h

def blobFile (root : FilePath) (digest : List Char) : FilePath :=
  root ++ [BLOBS_DIR, digest.take FANOUT, digest ++ ".pdf".toList]

theorem blobFile_inj {root : FilePath} {digest digest' : List Char}
    (h : blobFile root digest = blobFile root digest') : digest = digest' := by
  have htail := List.append_cancel_left h
  simp only [List.cons.injEq, List.append_cancel_right_eq, true_and, and_true] at htail
  exact htail.2

theorem not_slash_append {text suffix : List Char} (htext : '/' ∉ text) (hsuffix : '/' ∉ suffix) :
    '/' ∉ text ++ suffix := by
  rw [List.mem_append]
  exact fun h => h.elim htext hsuffix

theorem storageKey_eq_ok {digest key : List Char} (h : storageKey digest = .ok key) :
    isHexDigest digest = true ∧
      key = joinKey [BLOBS_DIR, digest.take FANOUT, digest ++ ".pdf".toList] := by
  unfold storageKey at h
  by_cases hhex : isHexDigest digest = true
  · rw [hhex] at h
    exact ⟨hhex, (Except.ok.inj h).symm⟩
  · rw [Bool.not_eq_true] at hhex
    rw [hhex] at h
    cases h

theorem resolvePath_storageKey {root : FilePath} {digest key : List Char}
    (h : storageKey digest = .ok key) : resolvePath root key = blobFile root digest := by
  obtain ⟨hhex, hkey⟩ := storageKey_eq_ok h
  have hslash := not_mem_of_isHexDigest hhex (c := '/') (by decide)
  have hlen := length_of_isHexDigest hhex
  have hparts : ∀ part ∈ [BLOBS_DIR, digest.take FANOUT, digest ++ ".pdf".toList], '/' ∉ part := by
    simp only [List.forall_mem_cons]
    refine ⟨by decide, fun hmem => hslash (List.mem_of_mem_take hmem),
      not_slash_append hslash (by decide), by simp⟩
  rw [hkey, resolvePath_joinKey (by decide) hparts]
  have hfan : ∀ base, walk base (digest.take FANOUT) = base ++ [digest.take FANOUT] := by
    intro base
    apply walk_name
    · intro hnil
      have := congrArg List.length hnil
      simp [FANOUT, hlen] at this
    · intro hdot
      have := congrArg List.length hdot
      simp [FANOUT, hlen] at this
    · intro hdots
      have hdot : '.' ∈ digest.take FANOUT := by
        rw [hdots]
        exact List.mem_cons_self
      exact not_mem_of_isHexDigest hhex (by decide) (List.mem_of_mem_take hdot)
  have hlast : ∀ base, walk base (digest ++ ".pdf".toList) = base ++ [digest ++ ".pdf".toList] := by
    intro base
    apply walk_long
    simp [hlen]
  simp only [List.foldl_cons, List.foldl_nil, hfan, hlast]
  rw [walk_long (by decide)]
  simp [blobFile]

theorem blobPath_eq_ok {root : FilePath} {digest : List Char} {path : FilePath}
    (h : blobPath root digest = .ok path) :
    path = blobFile root digest := by
  obtain ⟨key, hkey, hresolve⟩ := map_eq_ok_iff.mp h
  rw [← hresolve, resolvePath_storageKey hkey]

theorem blobPath_inj {root : FilePath} {digest digest' : List Char} {path : FilePath}
    (h : blobPath root digest = .ok path) (h' : blobPath root digest' = .ok path) :
    digest = digest' :=
  blobFile_inj ((blobPath_eq_ok h).symm.trans (blobPath_eq_ok h'))

theorem underBlobs_blobPath {root : FilePath} {digest : List Char} {path : FilePath}
    (h : blobPath root digest = .ok path) : UnderBlobs root path := by
  rw [blobPath_eq_ok h]
  exact (underBlobs_append root BLOBS_DIR _).mpr rfl

theorem not_slash_safeReason {isAlnum : Char → Bool} (hslash : isAlnum '/' = false)
    (reason : List Char) : '/' ∉ safeReason isAlnum reason := by
  unfold safeReason
  simp only []
  split
  · decide
  · intro hmem
    have hkept := (List.mem_filter.mp (List.mem_of_mem_take hmem)).2
    rw [hslash] at hkept
    exact absurd hkept (by decide)

/-- A digest without a separator cannot lead a quarantined file under the blobs tree. -/
theorem not_underBlobs_quarantineKey {isAlnum : Char → Bool} (hslash : isAlnum '/' = false)
    {digest : List Char} (hdigest : '/' ∉ digest) (root : FilePath) (reason : List Char) :
    ¬ UnderBlobs root (resolvePath root (quarantineKey isAlnum digest reason)) := by
  let last := digest ++ '.' :: safeReason isAlnum reason ++ ".bin".toList
  have hparts : ∀ part ∈ [QUARANTINE_DIR, digest.take FANOUT, last], '/' ∉ part := by
    simp only [List.forall_mem_cons]
    refine ⟨by decide, fun hmem => hdigest (List.mem_of_mem_take hmem), ?_, by simp⟩
    apply not_slash_append _ (by decide)
    apply not_slash_append hdigest
    rw [List.mem_cons]
    exact fun h => h.elim (by decide) (not_slash_safeReason hslash reason)
  have hlast : ∀ base, walk base last = base ++ [last] := by
    intro base
    apply walk_long
    simp [last]
    omega
  have hname : last ≠ BLOBS_DIR := by
    intro heq
    have hdot : '.' ∈ BLOBS_DIR := by
      rw [← heq]
      simp [last]
    exact absurd hdot (by decide)
  unfold quarantineKey
  rw [resolvePath_joinKey (by decide) hparts]
  simp only [List.foldl_cons, List.foldl_nil, hlast]
  rw [walk_long (by decide : 2 < QUARANTINE_DIR.length)]
  -- The fan-out component may be a name, nothing, a dot or two dots.
  unfold walk
  split
  · rw [List.append_assoc, List.singleton_append, underBlobs_append]
    decide
  · split
    · rw [List.dropLast_concat, underBlobs_append]
      exact hname
    · rw [List.append_assoc, List.append_assoc, List.singleton_append, underBlobs_append]
      decide

theorem resolveWithinStore_eq_ok {root path : FilePath} {key : List Char}
    (h : resolveWithinStore root key = .ok path) : path = resolvePath root key := by
  by_cases hin : root <+: resolvePath root key
  · simp only [resolveWithinStore, if_pos hin] at h
    exact (Except.ok.inj h).symm
  · simp only [resolveWithinStore, if_neg hin] at h
    cases h

/-! ## What a call may change -/

/-- The only thing `store_blob` may do under the blobs tree is to create the one file of its
payload's digest. -/
def StoredFrom (hash : Bytes → List Char) (root : FilePath) (payload : Bytes)
    (s t : Files) : Prop :=
  ∀ path, UnderBlobs root path → t path = s path ∨
    (s path = none ∧ blobPath root (hash payload) = .ok path ∧
      ∃ bytes, t path = some bytes ∧ hash bytes = hash payload)

section Steps

variable {root : FilePath} {Inv : Files → Prop} {s : Files}

/-- An operation, when every step it can take keeps the invariant. -/
theorem wpe_perform_step {o : FsOp} (hinv : Inv s)
    (hkeep : ∀ answer t, FsStep s o answer t → Inv t) :
    wpe FsStep Inv (perform o) (fun a t => FsStep s o (.ok a) t) s := by
  refine wpe_perform hinv fun answer t hstep => ⟨hkeep answer t hstep, fun a ha => ?_⟩
  rw [← ha]
  exact hstep

/-- An operation that only looks, or fails. -/
theorem wpe_look {o : FsOp} (hinv : Inv s) (ho : ∀ path, ¬ o.Touches path) :
    wpe FsStep Inv (perform o) (fun a t => t = s ∧ FsStep s o (.ok a) t) s := by
  have hsame : ∀ answer t, FsStep s o answer t → t = s :=
    fun _ _ hstep => funext fun path => hstep.frame (ho path)
  have hkeep : ∀ answer t, FsStep s o answer t → Inv t :=
    fun answer t hstep => hsame answer t hstep ▸ hinv
  exact wpe_mono (fun a t _ hstep => ⟨hsame _ t hstep, hstep⟩) (wpe_perform_step hinv hkeep)

theorem wpe_fsyncDirectory {path : FilePath} (hinv : Inv s) :
    wpe FsStep Inv (fsyncDirectory path) (fun _ t => t = s) s := by
  have hattempt : ∀ {o : FsOp}, (∀ path, ¬ o.Touches path) →
      wpe FsStep Inv (attempt o) (fun _ t => t = s) s := by
    intro o ho
    refine wpe_attempt hinv fun answer t hstep => ?_
    have hsame : t = s := funext fun path => hstep.frame (ho path)
    exact ⟨hsame ▸ hinv, hsame⟩
  unfold fsyncDirectory
  apply wpe_bind
  refine wpe_mono (fun opened t hinv' hts => ?_) (hattempt fun _ htouch => htouch)
  rw [hts]
  apply wpe_ite
  · intro _
    apply wpe_bind
    refine wpe_mono (fun _ u _ hus => ?_) (hattempt fun _ htouch => htouch)
    rw [hus]
    exact wpe_mono (fun _ _ _ hlook => hlook.1) (wpe_look hinv fun _ htouch => htouch)
  · intro _
    exact wpe_pure hinv rfl

/-- A temporary file is made off the blobs tree. -/
theorem wpe_mkstemp {suffix : FileName} (hquiet : ∀ t u, Inv t → SameBlobs root t u → Inv u)
    (hinv : Inv s) :
    wpe FsStep Inv (mkstemp (root ++ [TEMPORARY_DIR]) suffix)
      (fun temporary t => ¬ UnderBlobs root temporary ∧ SameBlobs root s t) s := by
  have hnot : ∀ name, ¬ UnderBlobs root (root ++ [TEMPORARY_DIR] ++ [name]) := by
    intro name
    rw [List.append_assoc, List.singleton_append, underBlobs_append]
    decide
  have hsame : ∀ answer t, FsStep s (.mkstemp (root ++ [TEMPORARY_DIR]) suffix) answer t →
      SameBlobs root s t := by
    intro answer t hstep path hpath
    cases hstep with
    | refused => rfl
    | mkstemp _ _ name _ => exact Function.update_of_ne (fun heq => hnot _ (heq ▸ hpath)) _ _
  refine wpe_mono (fun temporary t _ hstep => ⟨?_, hsame _ t hstep⟩)
    (wpe_perform_step hinv fun answer t hstep => hquiet s t hinv (hsame answer t hstep))
  cases hstep with
  | mkstemp _ _ name _ => exact hnot _

variable (hquiet : ∀ t u, Inv t → SameBlobs root t u → Inv u)
include hquiet

/-- An operation off the blobs tree keeps every invariant that only speaks of the tree. -/
theorem wpe_perform_quiet {o : FsOp} (hinv : Inv s)
    (ho : ∀ path, o.Touches path → ¬ UnderBlobs root path) :
    wpe FsStep Inv (perform o) (fun a t => FsStep s o (.ok a) t) s :=
  wpe_perform_step hinv fun _ _ hstep => hquiet _ _ hinv (hstep.sameBlobs ho)

theorem wpe_removeTemporary {temporary : FilePath} (hinv : Inv s)
    (htemp : ¬ UnderBlobs root temporary) :
    wpe FsStep Inv (removeTemporary temporary) (fun _ t => SameBlobs root s t) s := by
  have hoff : ∀ path, (FsOp.unlink temporary).Touches path → ¬ UnderBlobs root path :=
    fun path htouch => htouch ▸ htemp
  unfold removeTemporary
  apply wpe_bind
  refine wpe_mono (fun present t _ hlook => ?_) (wpe_look hinv fun _ htouch => htouch)
  rw [hlook.1]
  apply wpe_ite
  · intro _
    exact wpe_mono (fun _ t _ hstep => hstep.sameBlobs hoff) (wpe_perform_quiet hquiet hinv hoff)
  · intro _
    exact wpe_pure hinv (SameBlobs.refl root s)

end Steps

section StoreBlob

variable {hash : Bytes → List Char} {root : FilePath} {payload : Bytes} {s t u : Files}

theorem storedFrom_of_sameBlobs (h : SameBlobs root s t) : StoredFrom hash root payload s t :=
  fun path hpath => Or.inl (h path hpath)

theorem StoredFrom.quiet (h : StoredFrom hash root payload s t) (htu : SameBlobs root t u) :
    StoredFrom hash root payload s u := by
  intro path hpath
  rw [htu path hpath]
  exact h path hpath

/-- The rename of a verified file into an empty place. -/
theorem storedFrom_replace {temporary final : FilePath} {stored : Bytes}
    {answer : Except StorageExn Unit} (hst : SameBlobs root s t)
    (hfinal : blobPath root (hash payload) = .ok final) (habsent : s final = none)
    (htemp : ¬ UnderBlobs root temporary) (hstored : t temporary = some stored)
    (hhash : hash stored = hash payload) (hstep : FsStep t (.replace temporary final) answer u) :
    StoredFrom hash root payload s u := by
  intro path hpath
  by_cases hfile : path = final
  · cases hstep with
    | refused => exact Or.inl (hst path hpath)
    | replace _ _ bytes hbytes =>
      have heq : bytes = stored := Option.some.inj (hbytes.symm.trans hstored)
      rw [hfile, heq]
      exact Or.inr ⟨habsent, hfinal, stored, Function.update_self _ _ _, hhash⟩
  · left
    rw [hstep.frame]
    · exact hst path hpath
    · intro htouch
      cases htouch with
      | inl hsrc => exact htemp (hsrc ▸ hpath)
      | inr hdst => exact hfile hdst

theorem wpe_verifyTemporary {temporary : FilePath} {Inv : Files → Prop} (hinv : Inv s) :
    wpe FsStep Inv (verifyTemporary hash payload temporary)
      (fun _ t => t = s ∧ ∃ stored, s temporary = some stored ∧ hash stored = hash payload) s := by
  unfold verifyTemporary
  apply wpe_bind
  refine wpe_mono (fun written t _ hlook => ?_) (wpe_look hinv fun _ htouch => htouch)
  rw [hlook.1]
  apply wpe_raiseIf hinv
  intro _
  apply wpe_bind
  refine wpe_mono (fun stored t _ hlook => ?_) (wpe_look hinv fun _ htouch => htouch)
  rw [hlook.1]
  apply wpe_ite
  · intro _
    exact wpe_throw hinv
  · intro hhash
    cases hlook.2 with
    | readBytes _ _ hstored => exact wpe_pure hinv ⟨rfl, stored, hstored, not_not.mp hhash⟩

theorem wpe_publishTemporary {temporary final : FilePath} (hst : SameBlobs root s t)
    (hfinal : blobPath root (hash payload) = .ok final) (habsent : s final = none)
    (htemp : ¬ UnderBlobs root temporary) :
    wpe FsStep (StoredFrom hash root payload s)
      (do
        writeBytes temporary payload
        verifyTemporary hash payload temporary
        replace temporary final)
      (fun _ u => (u final).isSome) t := by
  have hwrite : ∀ path, (FsOp.write temporary payload).Touches path → ¬ UnderBlobs root path :=
    fun path htouch => htouch ▸ htemp
  apply wpe_bind
  refine wpe_mono (fun _ u hinv hstep => ?_)
    (wpe_perform_quiet (fun _ _ => StoredFrom.quiet) (storedFrom_of_sameBlobs hst) hwrite)
  have hsu : SameBlobs root s u := hst.trans (hstep.sameBlobs hwrite)
  apply wpe_bind
  refine wpe_mono (fun _ v _ hverified => ?_) (wpe_verifyTemporary hinv)
  obtain ⟨hvu, stored, hstored, hhash⟩ := hverified
  rw [hvu]
  refine wpe_mono (fun _ w _ hstep' => ?_) (wpe_perform_step hinv fun answer w hstep' => ?_)
  · cases hstep' with
    | replace _ _ bytes _ => rw [Function.update_self, Option.isSome_some]
  · exact storedFrom_replace hsu hfinal habsent htemp hstored hhash hstep'

theorem wpe_storeBlob {expectedDigest : Option (List Char)} :
    wpe FsStep (StoredFrom hash root payload s) (storeBlob hash root payload expectedDigest)
      (fun _ t => ∃ path, blobPath root (hash payload) = .ok path ∧ (t path).isSome) s := by
  have hquiet : ∀ t u, StoredFrom hash root payload s t → SameBlobs root t u →
      StoredFrom hash root payload s u := fun _ _ => StoredFrom.quiet
  have hinv : StoredFrom hash root payload s s := storedFrom_of_sameBlobs (SameBlobs.refl root s)
  unfold storeBlob
  apply wpe_raiseIf hinv
  intro _
  apply wpe_bind
  refine wpe_lift hinv fun key hkey => ?_
  apply wpe_bind
  refine wpe_lift hinv fun final hresolved => ?_
  have hfinal : blobPath root (hash payload) = .ok final := by
    rw [resolveWithinStore_eq_ok hresolved]
    exact map_eq_ok_iff.mpr ⟨key, hkey, rfl⟩
  apply wpe_bind
  refine wpe_mono (fun present t _ hlook => ?_) (wpe_look hinv fun _ htouch => htouch)
  rw [hlook.1]
  apply wpe_ite
  · -- already present: only its size is looked at
    intro hpresent
    have hsome : (s final).isSome := by
      cases hlook.2 with
      | pathExists => exact hpresent
    apply wpe_bind
    refine wpe_mono (fun existing t hinv' hlook' => ?_) (wpe_look hinv fun _ htouch => htouch)
    rw [hlook'.1] at hinv' ⊢
    apply wpe_raiseIf hinv'
    intro _
    exact wpe_pure hinv' ⟨final, hfinal, hsome⟩
  · intro hpresent
    have habsent : s final = none := by
      cases hlook.2 with
      | pathExists => simpa using hpresent
    apply wpe_bind
    refine wpe_mono (fun _ t _ hlook => ?_) (wpe_look hinv fun _ htouch => htouch)
    rw [hlook.1]
    apply wpe_bind
    refine wpe_mono (fun _ t _ hlook => ?_) (wpe_look hinv fun _ htouch => htouch)
    rw [hlook.1]
    apply wpe_bind
    refine wpe_mono (fun temporary t _ hmade => ?_) (wpe_mkstemp hquiet hinv)
    apply wpe_bind
    apply wpe_tryFinally (fun t hinv' =>
      wpe_mono (fun _ _ _ _ => trivial) (wpe_removeTemporary hquiet hinv' hmade.1))
    refine wpe_mono (fun _ u hinv' hpublished => ?_)
      (wpe_publishTemporary hmade.2 hfinal habsent hmade.1)
    refine wpe_mono (fun _ v hinv' hsame => ?_) (wpe_removeTemporary hquiet hinv' hmade.1)
    apply wpe_bind
    refine wpe_mono (fun _ w hinv' hw => ?_) (wpe_fsyncDirectory hinv')
    refine wpe_pure hinv' ⟨final, hfinal, ?_⟩
    rw [hw, hsame final (underBlobs_blobPath hfinal)]
    exact hpublished

end StoreBlob

theorem wpe_quarantineBlob {isAlnum : Char → Bool} (hslash : isAlnum '/' = false) {root : FilePath}
    {payload : Bytes} {digest reason : List Char} (hdigest : '/' ∉ digest) {s : Files} :
    wpe FsStep (SameBlobs root s) (quarantineBlob isAlnum root payload digest reason)
      (fun _ _ => True) s := by
  have hquiet : ∀ t u, SameBlobs root s t → SameBlobs root t u → SameBlobs root s u :=
    fun _ _ => SameBlobs.trans
  have hinv : SameBlobs root s s := SameBlobs.refl root s
  unfold quarantineBlob
  apply wpe_bind
  refine wpe_lift hinv fun target htarget => ?_
  have hoff : ¬ UnderBlobs root target := by
    rw [resolveWithinStore_eq_ok htarget]
    exact not_underBlobs_quarantineKey hslash hdigest root reason
  apply wpe_bind
  refine wpe_mono (fun present t _ hlook => ?_) (wpe_look hinv fun _ htouch => htouch)
  rw [hlook.1]
  apply wpe_ite
  · intro _
    exact wpe_pure hinv trivial
  · intro _
    apply wpe_bind
    refine wpe_mono (fun _ t _ hlook => ?_) (wpe_look hinv fun _ htouch => htouch)
    rw [hlook.1]
    apply wpe_bind
    refine wpe_mono (fun temporary t hinv' hmade => ?_) (wpe_mkstemp hquiet hinv)
    have hrename : ∀ path, (FsOp.replace temporary target).Touches path →
        ¬ UnderBlobs root path := by
      intro path htouch
      cases htouch with
      | inl hsrc => exact hsrc ▸ hmade.1
      | inr hdst => exact hdst ▸ hoff
    apply wpe_bind
    apply wpe_tryFinally (fun t hinv' =>
      wpe_mono (fun _ _ _ _ => trivial) (wpe_removeTemporary hquiet hinv' hmade.1))
    apply wpe_bind
    refine wpe_mono (fun _ u hinv' _ => ?_)
      (wpe_perform_quiet hquiet hinv' fun path htouch => htouch ▸ hmade.1)
    refine wpe_mono (fun _ v hinv' _ => ?_) (wpe_perform_quiet hquiet hinv' hrename)
    refine wpe_mono (fun _ w hinv' _ => ?_) (wpe_removeTemporary hquiet hinv' hmade.1)
    exact wpe_pure hinv' trivial

theorem wpe_readBlob {root : FilePath} {digest : List Char} {s : Files} :
    wpe FsStep (SameBlobs root s) (readBlob root digest)
      (fun bytes _ => ∃ path, blobPath root digest = .ok path ∧ s path = some bytes) s := by
  have hinv : SameBlobs root s s := SameBlobs.refl root s
  unfold readBlob
  apply wpe_bind
  refine wpe_lift hinv fun path hpath => ?_
  apply wpe_bind
  refine wpe_mono (fun present t _ hlook => ?_) (wpe_look hinv fun _ htouch => htouch)
  rw [hlook.1]
  apply wpe_raiseIf hinv
  intro _
  refine wpe_mono (fun bytes t _ hlook => ?_) (wpe_look hinv fun _ htouch => htouch)
  cases hlook.2 with
  | readBytes _ _ hbytes => exact ⟨path, hpath, hbytes⟩

theorem wpe_ensureDirectories {root : FilePath} {s : Files} :
    wpe FsStep (· = s) (ensureDirectories root) (fun _ _ => True) s := by
  unfold ensureDirectories
  apply wpe_bind
  refine wpe_mono (fun _ t _ hlook => ?_) (wpe_look rfl fun _ htouch => htouch)
  rw [hlook.1]
  apply wpe_bind
  refine wpe_mono (fun _ t _ hlook => ?_) (wpe_look rfl fun _ htouch => htouch)
  rw [hlook.1]
  exact wpe_mono (fun _ _ _ _ => trivial) (wpe_look rfl fun _ htouch => htouch)

/-! ## Runs -/

section Runs

variable {hash : Bytes → List Char} {isAlnum : Char → Bool} {root : FilePath}

/-- Every file under the blobs tree hashes to its own name. -/
def ContentAddressed (hash : Bytes → List Char) (root : FilePath) (s : Files) : Prop :=
  ∀ path bytes, UnderBlobs root path → s path = some bytes → blobPath root (hash bytes) = .ok path

/-- The digest a quarantine call is given names one file, as every digest does. -/
def Call.digestPlain : Call → Prop
  | .quarantineBlob _ digest _ => '/' ∉ digest
  | _ => True

/-- A call's execution, from what its program promises. -/
theorem exec_reply {α : Type} {p : Storage α} {reply : α → Reply} {Inv : Files → Prop}
    {Post : α → Files → Prop} {s t : Files} {out : Option (Except StorageExn Reply)}
    (h : wpe FsStep Inv p Post s)
    (hexec : Exec FsStep (do return reply (← p) : Storage Reply).run s out t) :
    Inv t ∧ ∀ r, out = some (.ok r) → ∃ a, r = reply a ∧ Post a t := by
  have hreply : wpe FsStep Inv (do return reply (← p)) (fun r t => ∃ a, r = reply a ∧ Post a t) s :=
    wpe_bind (wpe_mono (fun a _ hinv hpost => wpe_pure hinv ⟨a, rfl, hpost⟩) h)
  obtain ⟨hinv, hpost⟩ := wp_sound hreply hexec
  exact ⟨hinv, fun r hr => hpost (.ok r) hr r rfl⟩

/-- What one call, crashed or not, does to the blobs tree. -/
theorem exec_call (hslash : isAlnum '/' = false) {call : Call} (hplain : call.digestPlain)
    {s t : Files} {out : Option (Except StorageExn Reply)}
    (hexec : Exec FsStep (call.program hash isAlnum root).run s out t) :
    SameBlobs root s t ∨
      ∃ payload expectedDigest, call = .storeBlob payload expectedDigest ∧
        StoredFrom hash root payload s t := by
  cases call with
  | storeBlob payload expectedDigest =>
    exact Or.inr ⟨payload, expectedDigest, rfl, (exec_reply wpe_storeBlob hexec).1⟩
  | quarantineBlob payload digest reason =>
    exact Or.inl (exec_reply (wpe_quarantineBlob hslash hplain) hexec).1
  | readBlob digest => exact Or.inl (exec_reply wpe_readBlob hexec).1

/-- Every blob of `s` is in `t` with the same bytes. -/
def KeepsBlobs (root : FilePath) (s t : Files) : Prop :=
  ∀ path bytes, UnderBlobs root path → s path = some bytes → t path = some bytes

section Keeps

variable {payload : Bytes} {s t u : Files}

theorem ContentAddressed.same (hs : ContentAddressed hash root s) (h : SameBlobs root s t) :
    ContentAddressed hash root t := by
  intro path bytes hpath hbytes
  rw [h path hpath] at hbytes
  exact hs path bytes hpath hbytes

theorem ContentAddressed.stored (hs : ContentAddressed hash root s)
    (h : StoredFrom hash root payload s t) : ContentAddressed hash root t := by
  intro path bytes hpath hbytes
  cases h path hpath with
  | inl hsame =>
    rw [hsame] at hbytes
    exact hs path bytes hpath hbytes
  | inr hnew =>
    obtain ⟨_, hfile, left, hleft, hhash⟩ := hnew
    rw [Option.some.inj (hbytes.symm.trans hleft), hhash]
    exact hfile

theorem KeepsBlobs.same (hst : KeepsBlobs root s t) (h : SameBlobs root t u) :
    KeepsBlobs root s u := by
  intro path bytes hpath hbytes
  rw [h path hpath]
  exact hst path bytes hpath hbytes

theorem KeepsBlobs.stored (hst : KeepsBlobs root s t) (h : StoredFrom hash root payload t u) :
    KeepsBlobs root s u := by
  intro path bytes hpath hbytes
  have ht := hst path bytes hpath hbytes
  cases h path hpath with
  | inl hsame => rw [hsame, ht]
  | inr hnew => exact nomatch ht.symm.trans hnew.1

end Keeps

theorem exec_contentAddressed (hslash : isAlnum '/' = false) {call : Call}
    (hplain : call.digestPlain) {s t : Files} {out : Option (Except StorageExn Reply)}
    (hs : ContentAddressed hash root s)
    (hexec : Exec FsStep (call.program hash isAlnum root).run s out t) :
    ContentAddressed hash root t := by
  cases exec_call hslash hplain hexec with
  | inl hsame => exact hs.same hsame
  | inr hstored =>
    obtain ⟨payload, _, _, hfrom⟩ := hstored
    exact hs.stored hfrom

theorem exec_keepsBlobs (hslash : isAlnum '/' = false) {call : Call} (hplain : call.digestPlain)
    {s t u : Files} {out : Option (Except StorageExn Reply)} (hst : KeepsBlobs root s t)
    (hexec : Exec FsStep (call.program hash isAlnum root).run t out u) : KeepsBlobs root s u := by
  cases exec_call hslash hplain hexec with
  | inl hsame => exact hst.same hsame
  | inr hstored =>
    obtain ⟨payload, _, _, hfrom⟩ := hstored
    exact hst.stored hfrom

/-- Where the digests under the blobs tree come from. -/
def DigestsFrom (hash : Bytes → List Char) (root : FilePath) (stored : Set Bytes) (s : Files) :
    Prop :=
  ∀ path bytes, UnderBlobs root path → s path = some bytes →
    ∃ payload ∈ stored, hash payload = hash bytes

theorem exec_digestsFrom (hslash : isAlnum '/' = false) {call : Call} (hplain : call.digestPlain)
    {stored : Set Bytes}
    (hcall : ∀ payload expectedDigest, call = .storeBlob payload expectedDigest → payload ∈ stored)
    {s t : Files} {out : Option (Except StorageExn Reply)} (hs : DigestsFrom hash root stored s)
    (hexec : Exec FsStep (call.program hash isAlnum root).run s out t) :
    DigestsFrom hash root stored t := by
  intro path bytes hpath hbytes
  cases exec_call hslash hplain hexec with
  | inl hsame =>
    rw [hsame path hpath] at hbytes
    exact hs path bytes hpath hbytes
  | inr hstored =>
    obtain ⟨payload, expectedDigest, hcalled, hfrom⟩ := hstored
    cases hfrom path hpath with
    | inl hsame =>
      rw [hsame] at hbytes
      exact hs path bytes hpath hbytes
    | inr hnew =>
      obtain ⟨_, _, left, hleft, hhash⟩ := hnew
      rw [Option.some.inj (hbytes.symm.trans hleft), hhash]
      exact ⟨payload, hcall payload expectedDigest hcalled, rfl⟩

/-- What a completed read promises. -/
def ReadsOwnDigest (hash : Bytes → List Char) :
    Call × Option (Except StorageExn Reply) → Prop
  | (.readBlob digest, some (.ok (.content bytes))) => hash bytes = digest
  | _ => True

theorem exec_readsOwnDigest {call : Call} {s t : Files} {out : Option (Except StorageExn Reply)}
    (hs : ContentAddressed hash root s)
    (hexec : Exec FsStep (call.program hash isAlnum root).run s out t) :
    ReadsOwnDigest hash (call, out) := by
  cases call with
  | readBlob digest =>
    cases hout : out with
    | none => trivial
    | some result =>
      cases result with
      | error e => trivial
      | ok reply =>
        obtain ⟨bytes, hreply, path, hfile, hbytes⟩ := (exec_reply wpe_readBlob hexec).2 reply hout
        rw [hreply]
        exact blobPath_inj (hs path bytes (underBlobs_blobPath hfile) hbytes) hfile
  | storeBlob payload expectedDigest => trivial
  | quarantineBlob payload digest reason => trivial

abbrev CallLog := List (Call × Option (Except StorageExn Reply))

def storedPayloads (log : CallLog) : Set Bytes :=
  {payload | ∃ expectedDigest out, (Call.storeBlob payload expectedDigest, out) ∈ log}

def quarantinedPayloads (log : CallLog) : Set Bytes :=
  {payload | ∃ digest reason out, (Call.quarantineBlob payload digest reason, out) ∈ log}

theorem StoreRun.append {s t u : Files} {before after : CallLog}
    (hbefore : StoreRun hash isAlnum root s before t)
    (hafter : StoreRun hash isAlnum root t after u) :
    StoreRun hash isAlnum root s (before ++ after) u := by
  induction hbefore with
  | nil s => exact hafter
  | cons hexec _ ih => exact CallRun.cons hexec (ih hafter)

theorem digestsFrom_storedPayloads (hslash : isAlnum '/' = false) {log : CallLog} {s t : Files}
    (hplain : ∀ entry ∈ log, entry.1.digestPlain)
    (hs : DigestsFrom hash root (storedPayloads log) s)
    (hrun : StoreRun hash isAlnum root s log t) :
    DigestsFrom hash root (storedPayloads log) t := by
  have hstep : ∀ (call : Call) s out t,
      (call.digestPlain ∧ ∀ payload expectedDigest, call = .storeBlob payload expectedDigest →
        payload ∈ storedPayloads log) →
      DigestsFrom hash root (storedPayloads log) s →
      Exec FsStep (call.program hash isAlnum root).run s out t →
      DigestsFrom hash root (storedPayloads log) t :=
    fun call s out t hcall hs hexec => exec_digestsFrom hslash hcall.1 hcall.2 hs hexec
  refine hrun.keeps hstep (fun entry hentry => ⟨hplain entry hentry, ?_⟩) hs
  intro payload expectedDigest hcall
  exact ⟨expectedDigest, entry.2, hcall ▸ hentry⟩

/-- **The blob store is content-addressed.**  From a store without blobs, whatever the calls, the
steps the file system refuses and the points where they crash: a blob hashes to its own name, it
stays as it is, quarantined bytes do not become a blob, and a read returns what was asked for. -/
theorem opinionStore_contentAddressed (hslash : isAlnum '/' = false) {before after : CallLog}
    {s t u : Files} (hempty : ∀ path, UnderBlobs root path → s path = none)
    (hplain : ∀ entry ∈ before ++ after, entry.1.digestPlain)
    (hcollision : Set.InjOn hash
      (storedPayloads (before ++ after) ∪ quarantinedPayloads (before ++ after)))
    (hbefore : StoreRun hash isAlnum root s before t)
    (hafter : StoreRun hash isAlnum root t after u) :
    ContentAddressed hash root u ∧
    KeepsBlobs root t u ∧
    (∀ payload ∈ quarantinedPayloads (before ++ after), payload ∉ storedPayloads (before ++ after) →
      ∀ path, UnderBlobs root path → u path ≠ some payload) ∧
    (∀ digest bytes, (Call.readBlob digest, some (.ok (.content bytes))) ∈ before ++ after →
      hash bytes = digest) := by
  have hrun : StoreRun hash isAlnum root s (before ++ after) u := StoreRun.append hbefore hafter
  have hnone : ∀ {path bytes}, UnderBlobs root path → s path ≠ some bytes := by
    intro path bytes hpath hbytes
    rw [hempty path hpath] at hbytes
    exact nomatch hbytes
  have hstart : ContentAddressed hash root s := fun path bytes hpath hbytes =>
    absurd hbytes (hnone hpath)
  have hstep : ∀ (call : Call) s out t, call.digestPlain → ContentAddressed hash root s →
      Exec FsStep (call.program hash isAlnum root).run s out t → ContentAddressed hash root t :=
    fun call s out t hcall hs hexec => exec_contentAddressed hslash hcall hs hexec
  refine ⟨hrun.keeps hstep hplain hstart, ?_, ?_, ?_⟩
  · have hkeep : ∀ (call : Call) s out u, call.digestPlain → KeepsBlobs root t s →
        Exec FsStep (call.program hash isAlnum root).run s out u → KeepsBlobs root t u :=
      fun call s out u hcall hs hexec => exec_keepsBlobs hslash hcall hs hexec
    exact hafter.keeps hkeep
      (fun entry hentry => hplain entry (List.mem_append_right before hentry))
      (fun _ _ _ hbytes => hbytes)
  · intro payload hquarantined hnot path hpath hbytes
    have hfrom : DigestsFrom hash root (storedPayloads (before ++ after)) u :=
      digestsFrom_storedPayloads hslash hplain (fun _ _ hpath hbytes => absurd hbytes (hnone hpath))
        hrun
    obtain ⟨stored, hstored, hhash⟩ := hfrom path payload hpath hbytes
    have heq := hcollision (Or.inl hstored) (Or.inr hquarantined) hhash
    exact hnot (heq ▸ hstored)
  · intro digest bytes hread
    exact hrun.outcomes hstep
      (fun call s out t _ hs hexec => exec_readsOwnDigest hs hexec) hplain hstart _ hread

end Runs

section Sample

def sampleHash (bytes : Bytes) : List Char := List.replicate 64 (if bytes = [1] then 'a' else 'b')

def temporaryFile (name : FileName) : FilePath := [TEMPORARY_DIR, name ++ ".part".toList]

/-- A store interrupted after its write: the temporary file stays behind. -/
def interrupted : Files :=
  Function.update (Function.update (fun _ => none) (temporaryFile ['x']) (some []))
    (temporaryFile ['x']) (some [1])

def storedAgain : Files :=
  Function.update (Function.update (Function.update (Function.update interrupted
    (temporaryFile ['y']) (some [])) (temporaryFile ['y']) (some [1]))
    (temporaryFile ['y']) none) (blobFile [] (sampleHash [1])) (some [1])

def interruptedLog : CallLog := [(.storeBlob [1] none, none)]

def repeatedLog : CallLog :=
  [(.storeBlob [1] none, some (.ok (.stored
      { digest := sampleHash [1]
        key := joinKey [BLOBS_DIR, ['a', 'a'], sampleHash [1] ++ ".pdf".toList]
        byteSize := 1
        reused := false }))),
    (.quarantineBlob [2] (sampleHash [2]) [], some (.error .osError)),
    (.readBlob (sampleHash [1]), some (.ok (.content [1])))]

theorem interrupted_run :
    StoreRun sampleHash Char.isAlphanum [] (fun _ => none) interruptedLog interrupted := by
  refine CallRun.cons ?_ (CallRun.nil _)
  refine Exec.step (FsStep.pathExists _ _) ?_
  refine Exec.step (FsStep.mkdir _ _) ?_
  refine Exec.step (FsStep.mkdir _ _) ?_
  refine Exec.step (FsStep.mkstemp _ _ _ ['x'] rfl) ?_
  refine Exec.step (FsStep.write _ _ _ [1] (.ok ())) ?_
  exact Exec.crash _ _

theorem repeated_run :
    StoreRun sampleHash Char.isAlphanum [] interrupted repeatedLog storedAgain := by
  refine CallRun.cons (t := storedAgain) ?_
    (CallRun.cons (t := storedAgain) ?_ (CallRun.cons ?_ (CallRun.nil _)))
  · refine Exec.step (FsStep.pathExists _ _) ?_
    refine Exec.step (FsStep.mkdir _ _) ?_
    refine Exec.step (FsStep.mkdir _ _) ?_
    refine Exec.step (FsStep.mkstemp _ _ _ ['y'] (by decide)) ?_
    refine Exec.step (FsStep.write _ _ _ [1] (.ok ())) ?_
    refine Exec.step (FsStep.size _ _ [1] (by decide)) ?_
    refine Exec.step (FsStep.readBytes _ _ [1] (by decide)) ?_
    refine Exec.step (FsStep.replace _ _ _ [1] (by decide)) ?_
    refine Exec.step (FsStep.pathExists _ _) ?_
    refine Exec.step (FsStep.openDirectory _ _) ?_
    refine Exec.step (FsStep.fsync _ _) ?_
    refine Exec.step (FsStep.close _ _) ?_
    exact Exec.done _ _
  · refine Exec.step (FsStep.pathExists _ _) ?_
    refine Exec.step (FsStep.refused _ _) ?_
    exact Exec.done _ _
  · refine Exec.step (FsStep.pathExists _ _) ?_
    refine Exec.step (FsStep.readBytes _ _ [1] (by decide)) ?_
    exact Exec.done _ _

theorem opinionStore_contentAddressed_repeated :
    ContentAddressed sampleHash [] storedAgain ∧
    KeepsBlobs [] interrupted storedAgain ∧
    (∀ payload ∈ quarantinedPayloads (interruptedLog ++ repeatedLog),
      payload ∉ storedPayloads (interruptedLog ++ repeatedLog) →
        ∀ path, UnderBlobs [] path → storedAgain path ≠ some payload) ∧
    (∀ digest bytes,
      (Call.readBlob digest, some (.ok (.content bytes))) ∈ interruptedLog ++ repeatedLog →
        sampleHash bytes = digest) := by
  have hplain : ∀ entry ∈ interruptedLog ++ repeatedLog, entry.1.digestPlain := by
    intro entry hentry
    simp only [interruptedLog, repeatedLog, List.cons_append, List.nil_append, List.mem_cons,
      List.not_mem_nil, or_false] at hentry
    rcases hentry with rfl | rfl | rfl | rfl
    · trivial
    · trivial
    · show '/' ∉ sampleHash [2]
      decide
    · trivial
  have hcollision : Set.InjOn sampleHash (storedPayloads (interruptedLog ++ repeatedLog) ∪
      quarantinedPayloads (interruptedLog ++ repeatedLog)) := by
    have hmem : ∀ payload ∈ storedPayloads (interruptedLog ++ repeatedLog) ∪
        quarantinedPayloads (interruptedLog ++ repeatedLog), payload = [1] ∨ payload = [2] := by
      intro payload hpayload
      simp [storedPayloads, quarantinedPayloads, interruptedLog, repeatedLog] at hpayload
      tauto
    intro payload hpayload payload' hpayload' hhash
    rcases hmem payload hpayload with rfl | rfl <;> rcases hmem payload' hpayload' with rfl | rfl
    · rfl
    · exact absurd hhash (by decide)
    · exact absurd hhash (by decide)
    · rfl
  exact opinionStore_contentAddressed (by decide) (fun _ _ => rfl) hplain hcollision interrupted_run
    repeated_run

end Sample

end Dashkoda.LegalWork
