import Dashkoda.Core.FeedSync

/-!
# Which feed opened which run

The feeds share one registry.  Every run in it was opened by one of them for one registered
content, under the import key of that content; so a feed that finds its key taken finds its own
earlier run behind it.
-/

open Lib

namespace Dashkoda.Core

open Sources (ImportRun JsonObject Registry SourceArtifact Time)

/-- What a feed's runs carry: its source, its importer and the version of its normalised form. -/
structure FeedFacts where
  source : Nat
  importerName : String
  schemaVersion : String
  deriving DecidableEq, Repr

/-- The text whose digest is the import key of one content. -/
def FeedFacts.keyText (facts : FeedFacts) (sha256 : String) : String :=
  Sources.importKeyText facts.importerName facts.schemaVersion sha256

/-- The run was opened by the feed for the content of the artifact. -/
structure MadeBy (digest : String → String) (facts : FeedFacts) (artifact : SourceArtifact)
    (run : ImportRun) : Prop where
  registered : run.artifact = artifact.pk
  source : artifact.source = facts.source
  importerName : run.importerName = facts.importerName
  importKey : run.importKey = digest (facts.keyText artifact.sha256)

structure Attributed (digest : String → String) (feeds : List FeedFacts) (registry : Registry) :
    Prop where
  sound : registry.Sound
  hex : ∀ artifact ∈ registry.artifacts, Sources.isSha256Hex artifact.sha256 = true
  distinct : ∀ a ∈ registry.artifacts, ∀ b ∈ registry.artifacts,
    a.source = b.source → a.sha256 = b.sha256 → a = b
  made : ∀ run ∈ registry.runs, ∃ facts ∈ feeds, ∃ artifact ∈ registry.artifacts,
    MadeBy digest facts artifact run

theorem attributed_empty (digest : String → String) (feeds : List FeedFacts) :
    Attributed digest feeds ⟨[], []⟩ := by
  refine ⟨⟨?_, ?_⟩, ?_, ?_, ?_⟩
  · exact List.Pairwise.nil
  · exact List.Pairwise.nil
  · exact fun _ h => (by cases h)
  · exact fun _ h => (by cases h)
  · exact fun _ h => (by cases h)

section Registry

variable {digest : String → String} {feeds : List FeedFacts} {facts : FeedFacts}
  {registry r : Registry} {artifact : SourceArtifact} {run : ImportRun}
  {collection : ContentIdentity} {now : Time} {dryRun : Bool}

/-- A row written over its own keeps being the feed's. -/
theorem MadeBy.of_same {row : ImportRun} (h : MadeBy digest facts artifact run)
    (hartifact : row.artifact = run.artifact) (hname : row.importerName = run.importerName)
    (hkey : row.importKey = run.importKey) : MadeBy digest facts artifact row :=
  ⟨hartifact.trans h.registered, h.source, hname.trans h.importerName, hkey.trans h.importKey⟩

theorem Attributed.saveRun (h : Attributed digest feeds registry) (hfacts : facts ∈ feeds)
    (hartifact : artifact ∈ registry.artifacts) (hmade : MadeBy digest facts artifact run) :
    Attributed digest feeds (registry.saveRun run) := by
  refine ⟨h.sound.saveRun run, h.hex, h.distinct, fun row hrow => ?_⟩
  cases Table.mem_save hrow with
  | inl heq => exact ⟨facts, hfacts, artifact, hartifact, heq ▸ hmade⟩
  | inr hold => exact h.made row hold

theorem Attributed.addRun (h : Attributed digest feeds registry) (hfacts : facts ∈ feeds)
    (hartifact : artifact ∈ registry.artifacts) (hmade : MadeBy digest facts artifact run)
    (hpk : run.pk = Table.nextPk registry.runs) :
    Attributed digest feeds { registry with runs := registry.runs ++ [run] } := by
  refine ⟨h.sound.addRun hpk, h.hex, h.distinct, fun row hrow => ?_⟩
  cases List.mem_append.mp hrow with
  | inl hold => exact h.made row hold
  | inr hnew => exact ⟨facts, hfacts, artifact, hartifact, List.mem_singleton.mp hnew ▸ hmade⟩

theorem Attributed.addArtifact (h : Attributed digest feeds registry)
    (hpk : artifact.pk = Table.nextPk registry.artifacts)
    (hhex : Sources.isSha256Hex artifact.sha256 = true)
    (hnew : Sources.hasContent registry artifact.source artifact.sha256 = false) :
    Attributed digest feeds { registry with artifacts := registry.artifacts ++ [artifact] } := by
  have hother : ∀ a ∈ registry.artifacts, a.source = artifact.source →
      a.sha256 = artifact.sha256 → False := by
    intro a ha hsource hsha
    have hsame := List.any_eq_false.mp hnew a ha
    rw [hsource, hsha] at hsame
    simp at hsame
  refine ⟨h.sound.addArtifact hpk, ?_, ?_, ?_⟩
  · intro a ha
    cases List.mem_append.mp ha with
    | inl hold => exact h.hex a hold
    | inr hlast => exact List.mem_singleton.mp hlast ▸ hhex
  · intro a ha b hb hsource hsha
    -- only two old artifacts, or the new one with itself, can agree
    cases List.mem_append.mp ha with
    | inl holdA =>
      cases List.mem_append.mp hb with
      | inl holdB => exact h.distinct a holdA b holdB hsource hsha
      | inr hlastB =>
        rw [List.mem_singleton.mp hlastB] at hsource hsha
        exact (hother a holdA hsource hsha).elim
    | inr hlastA =>
      rw [List.mem_singleton.mp hlastA] at hsource hsha ⊢
      cases List.mem_append.mp hb with
      | inl holdB => exact (hother b holdB hsource.symm hsha.symm).elim
      | inr hlastB => exact (List.mem_singleton.mp hlastB).symm
  · intro row hrow
    obtain ⟨facts, hfacts, a, ha, hmade⟩ := h.made row hrow
    exact ⟨facts, hfacts, a, List.mem_append_left _ ha, hmade⟩

/-- Registering collected content, or finding it registered. -/
theorem artifactFor_attributed (h : Attributed digest feeds registry)
    (hhex : Sources.isSha256Hex collection.sha256 = true) :
    (artifactFor facts.source collection
        (findPublishedArtifact registry facts.source collection.sha256 facts.importerName).1).wp
      (fun artifact r => Attributed digest feeds r ∧ r.runs = registry.runs ∧
        artifact ∈ r.artifacts ∧ artifact.source = facts.source ∧
        artifact.sha256 = collection.sha256)
      (fun _ r => r = registry) registry := by
  unfold findPublishedArtifact
  cases hfind : registry.artifacts.find? fun artifact =>
      artifact.source = facts.source && artifact.sha256 = collection.sha256 with
  | some artifact =>
    have hfound := List.find?_some hfind
    rw [Bool.and_eq_true, decide_eq_true_iff, decide_eq_true_iff] at hfound
    exact ⟨h, rfl, List.mem_of_find?_eq_some hfind, hfound⟩
  | none =>
    have hnew : Sources.hasContent registry facts.source collection.sha256 = false := by
      unfold Sources.hasContent
      rw [List.any_eq_false]
      exact List.find?_eq_none.mp hfind
    apply Proc.wp_service
    · intro r artifact hok
      obtain ⟨identity, hidentity, hartifact, rfl⟩ :=
        Sources.registerExternalReference_eq_ok_iff.mp hok
      unfold Sources.contentIdentity at hidentity
      rw [if_neg (ne_empty_of_isSha256Hex hhex)] at hidentity
      obtain ⟨-, -, -, -, hsame⟩ := Sources.validateContentIdentity_eq_ok_iff.mp hidentity
      have hsha : artifact.sha256 = collection.sha256 := by
        rw [hartifact, hsame]
        exact strip_of_isSha256Hex hhex
      have hsource : artifact.source = facts.source := by rw [hartifact]
      refine ⟨h.addArtifact (by rw [hartifact]) (hsha.symm ▸ hhex) ?_, rfl,
        List.mem_append_right _ List.mem_cons_self, hsource, hsha⟩
      rw [hsource, hsha]
      exact hnew
    · exact fun _ _ => rfl

theorem openRun_attributed (h : Attributed digest feeds r) (hfacts : facts ∈ feeds)
    (hartifact : artifact ∈ r.artifacts) (hsource : artifact.source = facts.source) :
    (openRun digest artifact facts.importerName facts.schemaVersion dryRun now).wp
      (fun run r' => Attributed digest feeds r' ∧ artifact ∈ r'.artifacts ∧
        MadeBy digest facts artifact run)
      (fun _ => Attributed digest feeds) r := by
  unfold openRun
  rw [Proc.wp_bind]
  apply Proc.wp_service
  · intro r₁ run hok
    obtain ⟨-, hrun, -, rfl⟩ := Sources.buildImportRun_eq_ok_iff.mp hok
    have hmade : MadeBy digest facts artifact run := by
      rw [hrun]
      exact ⟨rfl, hsource, rfl, rfl⟩
    have h₁ := h.addRun hfacts hartifact hmade (by rw [hrun]; rfl)
    apply Proc.wp_service
    · intro r₂ run' hok'
      obtain ⟨-, rfl, rfl⟩ := Sources.startRun_eq_ok_iff.mp hok'
      have hmade' : MadeBy digest facts artifact (run.started now) := hmade.of_same rfl rfl rfl
      exact ⟨h₁.saveRun hfacts hartifact hmade', hartifact, hmade'⟩
    · exact fun _ _ => h₁
  · exact fun _ _ => h

/-- Opening a run leaves every run attributed, also where it fails half way. -/
theorem startRun_attributed (h : Attributed digest feeds registry) (hfacts : facts ∈ feeds)
    (hhex : Sources.isSha256Hex collection.sha256 = true) :
    (startRun digest facts.source collection
        (findPublishedArtifact registry facts.source collection.sha256 facts.importerName).1
        facts.importerName facts.schemaVersion dryRun now).wp
      (fun opened r => Attributed digest feeds r ∧ opened.1 ∈ r.artifacts ∧
        MadeBy digest facts opened.1 opened.2)
      (fun _ => Attributed digest feeds) registry := by
  have hartifact : (artifactFor facts.source collection (findPublishedArtifact registry facts.source
      collection.sha256 facts.importerName).1).wp _ _ registry := artifactFor_attributed h hhex
  unfold startRun
  simp only [Proc.wp_bind, Proc.wp_pure]
  apply Proc.wp_mono hartifact
  · intro artifact r hr
    exact openRun_attributed hr.1 hfacts hr.2.2.1 hr.2.2.2.1
  · intro _ r hr
    rw [hr]
    exact h

theorem completeRun_attributed (h : Attributed digest feeds registry) (hfacts : facts ∈ feeds)
    (hartifact : artifact ∈ registry.artifacts) (hmade : MadeBy digest facts artifact run)
    (counts : ImportRun.Counts) :
    (completeRun run now counts).wp (fun _ => Attributed digest feeds)
      (fun _ => Attributed digest feeds) registry := by
  unfold completeRun
  apply Proc.wp_service
  · intro r _ hok
    obtain ⟨r', hcomplete, heq⟩ := map_eq_ok_iff.mp hok
    cases heq
    obtain ⟨-, -, rfl⟩ := Sources.completeRun_eq_ok_iff.mp hcomplete
    exact h.saveRun hfacts hartifact (hmade.of_same rfl rfl rfl)
  · exact fun _ _ => h

theorem failPublication_attributed (h : Attributed digest feeds registry) (run : ImportRun)
    (errors : List JsonObject) :
    (failPublication run now errors).wp (fun _ => Attributed digest feeds)
      (fun _ => Attributed digest feeds) registry := by
  unfold failPublication
  apply Proc.wp_service
  · intro r _ hok
    obtain ⟨r', hfail, heq⟩ := map_eq_ok_iff.mp hok
    cases heq
    cases Sources.failPublicationRow_eq_ok hfail with
    | inl hsame => exact hsame ▸ h
    | inr hrow =>
      obtain ⟨row, hmem, -, rfl⟩ := hrow
      obtain ⟨facts, hfacts, artifact, hartifact, hmade⟩ := h.made row hmem
      exact h.saveRun hfacts hartifact (hmade.of_same rfl rfl rfl)
  · exact fun _ _ => h

end Registry

/-! ## Published before, and imported before -/

/-- A live run of the feed has published the content. -/
def publishedBefore (registry : Registry) (facts : FeedFacts) (sha256 : String) : Bool :=
  (findPublishedArtifact registry facts.source sha256 facts.importerName).2

/-- No other content of the registry has the import key of this one by a collision of digests. -/
def KeysApart (digest : String → String) (feeds : List FeedFacts) (registry : Registry)
    (facts : FeedFacts) (sha256 : String) : Prop :=
  ∀ other ∈ feeds, ∀ artifact ∈ registry.artifacts,
    digest (other.keyText artifact.sha256) = digest (facts.keyText sha256) →
      other.keyText artifact.sha256 = facts.keyText sha256

@[simp]
theorem publishedBefore_empty (facts : FeedFacts) (sha256 : String) :
    publishedBefore ⟨[], []⟩ facts sha256 = false := rfl

theorem keysApart_empty (digest : String → String) (feeds : List FeedFacts) (facts : FeedFacts)
    (sha256 : String) : KeysApart digest feeds ⟨[], []⟩ facts sha256 :=
  fun _ _ _ h => absurd h List.not_mem_nil

/-- The texts behind the import keys name the feed and the content. -/
def TextsApart (feeds : List FeedFacts) : Prop :=
  ∀ f ∈ feeds, ∀ g ∈ feeds, ∀ s t, Sources.isSha256Hex s = true → Sources.isSha256Hex t = true →
    f.keyText s = g.keyText t → f = g ∧ s = t

section Published

variable {digest : String → String} {feeds : List FeedFacts} {facts : FeedFacts}
  {registry : Registry} {sha256 : String}

theorem publishedBefore_eq_true_iff :
    publishedBefore registry facts sha256 = true ↔
      ∃ artifact, (registry.artifacts.find? fun artifact =>
          artifact.source = facts.source && artifact.sha256 = sha256) = some artifact ∧
        ∃ run ∈ registry.runs, run.artifact = artifact.pk ∧
          run.importerName = facts.importerName ∧ run.isSuccessfulLive = true := by
  unfold publishedBefore findPublishedArtifact
  cases registry.artifacts.find? fun artifact =>
      artifact.source = facts.source && artifact.sha256 = sha256 with
  | none => simp
  | some artifact => simp [List.any_eq_true, and_assoc]

/-- A key that is taken was taken by the feed itself, for the same content. -/
theorem Attributed.publishedBefore (h : Attributed digest feeds registry)
    (htexts : TextsApart feeds) (hfacts : facts ∈ feeds) (hhex : Sources.isSha256Hex sha256 = true)
    (hapart : KeysApart digest feeds registry facts sha256)
    (hbefore : importedBefore registry (digest (facts.keyText sha256)) = true) :
    Core.publishedBefore registry facts sha256 = true := by
  obtain ⟨run, hrun, hlive⟩ := List.any_eq_true.mp hbefore
  rw [Bool.and_eq_true, decide_eq_true_iff] at hlive
  obtain ⟨other, hother, artifact, hartifact, hmade⟩ := h.made run hrun
  have hkey := hapart other hother artifact hartifact (hmade.importKey.symm.trans hlive.2)
  obtain ⟨hsame, hsha⟩ := htexts other hother facts hfacts _ _ (h.hex artifact hartifact) hhex hkey
  rw [hsame] at hmade
  -- the artifact behind the run is the only one of its source with the checksum
  have hfind : registry.artifacts.find? (fun a => a.source = facts.source && a.sha256 = sha256) =
      some artifact := by
    cases hfound : registry.artifacts.find? fun a =>
        a.source = facts.source && a.sha256 = sha256 with
    | none =>
      have hnot := List.find?_eq_none.mp hfound artifact hartifact
      rw [hmade.source, hsha] at hnot
      simp at hnot
    | some first =>
      have hfirst := List.find?_some hfound
      rw [Bool.and_eq_true, decide_eq_true_iff, decide_eq_true_iff] at hfirst
      rw [h.distinct first (List.mem_of_find?_eq_some hfound) artifact hartifact
        (hfirst.1.trans hmade.source.symm) (hfirst.2.trans hsha.symm)]
  exact publishedBefore_eq_true_iff.mpr
    ⟨artifact, hfind, run, hrun, hmade.registered, hmade.importerName, hlive.1⟩

/-- Content the feed has published holds its key. -/
theorem Attributed.importedBefore (h : Attributed digest feeds registry)
    (hnames : ∀ f ∈ feeds, ∀ g ∈ feeds, f.importerName = g.importerName → f = g)
    (hfacts : facts ∈ feeds) (hpublished : Core.publishedBefore registry facts sha256 = true) :
    Core.importedBefore registry (digest (facts.keyText sha256)) = true := by
  obtain ⟨artifact, hfind, run, hrun, hregistered, hname, hlive⟩ :=
    publishedBefore_eq_true_iff.mp hpublished
  have hfound := List.find?_some hfind
  rw [Bool.and_eq_true, decide_eq_true_iff, decide_eq_true_iff] at hfound
  obtain ⟨other, hother, artifact', hartifact', hmade⟩ := h.made run hrun
  have hsame : other = facts :=
    hnames other hother facts hfacts (hmade.importerName.symm.trans hname)
  have hpk : artifact' = artifact := Table.eq_of_pk_eq h.sound.artifacts hartifact'
    (List.mem_of_find?_eq_some hfind) (hmade.registered.symm.trans hregistered)
  have hkey := hmade.importKey
  rw [hpk, hsame, hfound.2] at hkey
  exact List.any_eq_true.mpr ⟨run, hrun, by rw [hlive, hkey]; simp⟩

end Published

/-! ### Importers of one version under different names -/

section Texts

variable {feeds : List FeedFacts}

theorem isSha256Hex_iff {checksum : String} : Sources.isSha256Hex checksum = true ↔
    checksum.length = Sources.sha256HexLength ∧
      ∀ c ∈ checksum.toList, c ∈ Sources.sha256HexAlphabet := by
  unfold Sources.isSha256Hex
  rw [Bool.and_eq_true, decide_eq_true_iff, List.all_eq_true]
  simp only [decide_eq_true_iff]

/-- A checksum goes into the key as it is. -/
theorem lower_strip_of_isSha256Hex {checksum : String} (h : Sources.isSha256Hex checksum = true) :
    String.ofList ((PyText.stripChars checksum.toList).map Char.toLower) = checksum := by
  have hdigits := (isSha256Hex_iff.mp h).2
  have hspace : (Sources.sha256HexAlphabet.all fun d => PyText.isSpace d = false) =
    true := by decide
  have hlower : (Sources.sha256HexAlphabet.all fun d => d.toLower = d) = true := by decide
  have hstrip : PyText.stripChars checksum.toList = checksum.toList :=
    PyText.stripChars_of_not_isSpace fun c hc =>
      of_decide_eq_true (List.all_eq_true.mp hspace c (hdigits c hc))
  have hmap : checksum.toList.map Char.toLower = checksum.toList.map id :=
    List.map_congr_left fun c hc => of_decide_eq_true (List.all_eq_true.mp hlower c (hdigits c hc))
  rw [hstrip, hmap, List.map_id, String.ofList_toList]

theorem keyText_toList {facts : FeedFacts}
    (hname : PyText.strip facts.importerName = facts.importerName)
    (hversion : PyText.strip facts.schemaVersion = facts.schemaVersion) {checksum : String}
    (h : Sources.isSha256Hex checksum = true) :
    (facts.keyText checksum).toList = (facts.importerName.toList ++
      ("\x1f" ++ facts.schemaVersion ++ "\x1f").toList) ++ checksum.toList := by
  unfold FeedFacts.keyText Sources.importKeyText
  rw [hname, hversion, lower_strip_of_isSha256Hex h, String.toList_intercalate]
  simp [String.toList_append]

/-- Importers of one version are told apart by their names. -/
theorem textsApart_of_names (version : String) (hversion : ∀ f ∈ feeds, f.schemaVersion = version)
    (hstripVersion : PyText.strip version = version)
    (hstrip : ∀ f ∈ feeds, PyText.strip f.importerName = f.importerName)
    (hnames : ∀ f ∈ feeds, ∀ g ∈ feeds, f.importerName = g.importerName → f = g) :
    TextsApart feeds := by
  intro f hf g hg s t hs ht hsame
  have hlists := congrArg String.toList hsame
  have hstripF : PyText.strip f.schemaVersion = f.schemaVersion := hversion f hf ▸ hstripVersion
  have hstripG : PyText.strip g.schemaVersion = g.schemaVersion := hversion g hg ▸ hstripVersion
  rw [keyText_toList (hstrip f hf) hstripF hs, keyText_toList (hstrip g hg) hstripG ht,
    hversion f hf, hversion g hg] at hlists
  -- checksums are of one length, so the two texts split at the same place
  have hlength : s.toList.length = t.toList.length :=
    (isSha256Hex_iff.mp hs).1.trans (isSha256Hex_iff.mp ht).1.symm
  obtain ⟨hfront, hback⟩ := List.append_inj' hlists hlength
  have hname : f.importerName = g.importerName :=
    String.toList_inj.mp (List.append_inj' hfront rfl).1
  exact ⟨hnames f hf g hg hname, String.toList_inj.mp hback⟩

end Texts

/-! ## Runs that are refused, and runs that fail -/

section Fails

variable {registry r : Registry} {digest : String → String} {source : Nat}
  {collection : ContentIdentity} {importerName schemaVersion importKey : String} {now : Time}
  {run : ImportRun} {dryRun : Bool}

/-- Content that is not accepted gets no artifact. -/
theorem artifactFor_refuses (haccepted : identityAccepted registry source collection = false)
    (hhex : Sources.isSha256Hex collection.sha256 = true) :
    (artifactFor source collection
        (findPublishedArtifact registry source collection.sha256 importerName).1).wp
      (fun _ _ => False) (fun _ r => r = registry) registry := by
  unfold identityAccepted at haccepted
  rw [Bool.or_eq_false_iff] at haccepted
  have hfind : registry.artifacts.find? (fun artifact =>
      artifact.source = source && artifact.sha256 = collection.sha256) = none :=
    List.find?_eq_none.mpr (List.any_eq_false.mp haccepted.1)
  have hrefused : ∀ r artifact, Sources.registerExternalReference registry source
      collection.sha256 collection.sizeBytes ≠ .ok (r, artifact) := by
    intro r artifact hok
    obtain ⟨identity, hidentity, -, -⟩ := Sources.registerExternalReference_eq_ok_iff.mp hok
    unfold Sources.contentIdentity at hidentity
    rw [if_neg (ne_empty_of_isSha256Hex hhex)] at hidentity
    rw [hidentity] at haccepted
    cases haccepted.2
  unfold findPublishedArtifact
  rw [hfind]
  unfold artifactFor
  apply Proc.wp_service
  · exact fun r artifact hok => (hrefused r artifact hok).elim
  · exact fun _ _ => rfl

theorem startRun_refuses (haccepted : identityAccepted registry source collection = false)
    (hhex : Sources.isSha256Hex collection.sha256 = true) :
    (startRun digest source collection
        (findPublishedArtifact registry source collection.sha256 importerName).1
        importerName schemaVersion dryRun now).wp
      (fun _ _ => False) (fun _ r => r = registry) registry := by
  unfold startRun
  simp only [Proc.wp_bind, Proc.wp_pure]
  exact Proc.wp_mono (artifactFor_refuses haccepted hhex) (fun _ _ hfalse => hfalse.elim)
    fun _ _ hsame => hsame

/-- A run that was just opened can always be closed as failed. -/
theorem Opened.fails (h : Opened registry importKey now run r) (errors : List JsonObject) :
    (failPublication run now errors).wp (fun _ _ => True) (fun _ _ => False) r := by
  have hfound : Table.get? r.runs run.pk = some run := by
    apply Table.get?_of_mem h.sound.runs
    rw [h.runs]
    exact List.mem_append_right _ List.mem_cons_self
  have hopen : run.isTerminal = false := by
    unfold ImportRun.isTerminal
    rw [h.running]
    decide
  have htransition : run.requireTransition .failed = .ok () := by
    rw [ImportRun.requireTransition_ok_iff, h.running]
    decide
  have hok : Sources.failPublicationRow r run.pk now errors =
      .ok (r.saveRun (run.failed now errors)) := by
    unfold Sources.failPublicationRow
    rw [hfound]
    dsimp only
    rw [hopen, htransition, h.clean.fullClean_failed]
    rfl
  unfold failPublication
  have hmap : (Sources.failPublicationRow r run.pk now errors).map (fun r => (r, ())) =
      .ok (r.saveRun (run.failed now errors), ()) := map_eq_ok_iff.mpr ⟨_, hok, rfl⟩
  exact Proc.wp_service_ok hmap trivial

end Fails

end Dashkoda.Core
