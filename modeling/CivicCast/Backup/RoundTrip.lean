import CivicCast.Backup.Restore

/-!
# A backup and its restore

What `create_backup` captures, `restore_backup` puts where the mapping says, for every nesting of
the captured roots. `restored_as_captured` says so for every station, disk and passphrase and for
every mapping that restore accepts and whose targets are distinct and not nested, with two things
the code does by design: the storage locations in a station's state file are mapped along, and a
managed root leaves out hidden files, locks and partial files.

A file can lie under several captured roots, and then it is restored once for each of them. The
path of an asset is mapped by the longest of those that move.
-/

namespace CivicCast.Backup.Archive

open Lib List Path

variable {B S C D A J : Type}

/-! ## What is asked and what comes back -/

section Statement

variable (json : StateJson B J) (casefold : Text → Text) (fold : Path → Text) (station : Station)
  (disk : Disk B) (credentials : Option C) (replacement : Replacement B C)
  (request : RestoreRequest) (T : Path → Path)

def StateSource (source : Path) : Prop :=
  source ∈ station.configs fold ∧ casefold source.name = stationStateName

/-- The replacement station takes the backup with the targets `T`. The managed roots go where the
replacement has them, and all else goes where the request says. -/
structure Accepts : Prop where
  acknowledged : replacement.credentialDestination = true →
    request.restoreLocalStationSettings = true
  stopped : request.writersStopped = true
  importable : checkCredentials replacement credentials = .ok ()
  given : ∀ source, Recorded fold station disk source →
    (∀ name, (name, source) ∉ station.managedRoots) → request.targetPaths source = some (T source)
  managed : ∀ name root, (name, root) ∈ station.managedRoots → disk.node root = some .dir →
    replacement.managedRoots name = some (T root) ∧ replacement.files (T root) = none ∧
      ∀ t ∈ request.targetPaths root, t = T root
  absolute : ∀ source, Recorded fold station disk source → (T source).isAbsolute = true
  /-- A state file is read where a root moves. -/
  states : ∀ root, CapturedRoot station disk root → T root ≠ root →
    ∀ source content, StateSource casefold fold station source →
      disk.node source = some (.file content) → (json.loads content).isSome = true

/-- The targets are distinct and not nested. -/
def Apart : Prop :=
  ∀ source source', Recorded fold station disk source → Recorded fold station disk source' →
    source ≠ source' → ¬(T source).Above (T source')

def NoTarget (p : Path) : Prop :=
  ∀ source relative content, Captured fold station disk source relative content →
    p ≠ (T source).joinpath relative

/-- The path is not in a managed root of the replacement, nor where that root is moved to. -/
def OutsideManaged (p : Path) : Prop :=
  ∀ name root, (name, root) ∈ station.managedRoots → disk.node root = some .dir →
    ¬(T root).Above p ∧ ¬(rollbackPath request.stamp (T root)).Above p

/-- The root that governs the path of a file has the file: it is a media root, or it does not leave
out files of that name. -/
def Kept (p : Path) : Prop :=
  ∀ root, Governs (CapturedRoot station disk) T root p →
    root ∈ station.mediaRoots ∨ skippedName p.name = false

def RestoredAt (p : Path) (restored : Restored B D) (path : Path) (content : B) : Prop :=
  (∃ source relative, Captured fold station disk source relative content ∧
    source.joinpath relative = p ∧ path = (T source).joinpath relative) ∧
  restored.files path = some content

/-- What was captured is where the mapping says, and nothing else was written. -/
structure RoundTrip (database : Database D) (restored : Restored B D) : Prop where
  /-- Only a state file can differ. -/
  files : ∀ source relative content, Captured fold station disk source relative content →
    restored.files ((T source).joinpath relative) = some content ∨
    StateSource casefold fold station source ∧ relative = [] ∧
      ∃ content', StateFollows json (CapturedRoot station disk) T content content' ∧
        restored.files (T source) = some content'
  elsewhere : ∀ p, NoTarget fold station disk T p →
    (OutsideManaged station disk request T p → restored.files p = replacement.files p) ∧
    ∀ content, restored.files p = some content → ∃ q, replacement.files q = some content
  assets : List.Forall₂ (fun row row' => row'.assetId = row.assetId ∧ ∀ root relative content,
      CapturedRoot station disk root → relative ≠ [] →
      Captured fold station disk root relative content →
      row.filePath = some (root.joinpath relative) → Kept station disk T (root.joinpath relative) →
      ∃ path, row'.filePath = some path ∧
        RestoredAt fold station disk T (root.joinpath relative) restored path content)
    database.assets restored.database.assets

end Statement

/-! ## The bundle -/

section Bundle

variable {sha256 : B → S} {fold : Path → Text} {station : Station} {disk : Disk B}
  {copied managed : Copied B} {credentials : Option C}

def payloadOf (copied managed : Copied B) (credentials : Option C) : List Record :=
  (copied ++ managed).map Prod.fst ++ credentials.toList.map fun _ => .credentialExport

def stageOf (copied managed : Copied B) : Stage B :=
  writeAll (staged managed ++ staged copied) fun _ => none

lemma mem_payloadOf {record : Record} (hne : record ≠ .credentialExport) :
    record ∈ payloadOf copied managed credentials ↔ ∃ c, (record, c) ∈ copied ++ managed := by
  unfold payloadOf
  rw [mem_append, mem_map]
  constructor
  · rintro (⟨item, hitem, rfl⟩ | hexport)
    · exact ⟨item.2, hitem⟩
    · obtain ⟨_, -, heq⟩ := mem_map.mp hexport
      exact (hne heq.symm).elim
  · rintro ⟨c, hc⟩
    exact .inl ⟨_, hc, rfl⟩

lemma createBackup_ok {vault : Vault B S C D A} {database : Database D}
    {passphrase : Text} {archive : A}
    (h : createBackup vault sha256 fold station disk database credentials passphrase =
      .ok archive) :
    requirePassphrase passphrase = .ok () ∧
      ∃ copied managed, Copies fold station disk copied managed ∧
      archive = vault.lock passphrase {
        stage := stageOf copied managed
        members := hashMembers sha256 (staged managed ++ staged copied) (stageOf copied managed)
        payload := payloadOf copied managed credentials
        credentials := credentials
        database := database } := by
  obtain ⟨_, hpassphrase, h⟩ := bind_ok h
  split at h
  · cases h
  · obtain ⟨bundle, hbundle, h⟩ := bind_ok h
    obtain ⟨managed, hmanaged, hbundle⟩ := bind_ok hbundle
    obtain ⟨copied, hcopied, hbundle⟩ := bind_ok hbundle
    refine ⟨hpassphrase, copied, managed, ⟨hcopied, hmanaged⟩, ?_⟩
    cases h
    cases hbundle
    rfl

/-- A backup is made where the passphrase is long enough, the destination is apart from the roots,
and no root is a file. -/
lemma createBackup_returns (vault : Vault B S C D A) (sha256 : B → S) (fold : Path → Text)
    (database : Database D) (credentials : Option C) (passphrase : Text)
    (hpassphrase : 12 ≤ passphrase.length) (hoverlaps : station.overlaps = false)
    (hroots : ∀ root ∈ station.mediaRoots ++ station.managedRoots.map Prod.snd, ∀ content,
      disk.node root ≠ some (.file content)) :
    ∃ archive, createBackup vault sha256 fold station disk database credentials passphrase =
      .ok archive := by
  have hmedia : ∀ root ∈ station.mediaRoots, ∀ index,
      ∃ here, copyMediaRoot disk root index = .ok here := by
    intro root hroot index
    unfold copyMediaRoot
    split
    · exact ⟨_, rfl⟩
    · -- a root that is a file is refused
      rename_i content hfile
      exact (hroots root (mem_append_left _ hroot) content hfile).elim
    · exact ⟨_, rfl⟩
  have hmanaged : ∀ root ∈ station.managedRoots, ∀ index,
      ∃ here, copyManagedRoot disk root index = .ok here := by
    intro root hroot index
    unfold copyManagedRoot
    split
    · exact ⟨_, rfl⟩
    · rename_i content hfile
      have hmem : root.2 ∈ station.managedRoots.map Prod.snd := mem_map_of_mem hroot
      exact (hroots root.2 (mem_append_right _ hmem) content hfile).elim
    · exact ⟨_, rfl⟩
  obtain ⟨media, hmedia⟩ := copyEach_returns 0 hmedia
  obtain ⟨managed, hmanaged⟩ := copyEach_returns 0 hmanaged
  have hshort : ¬passphrase.length < 12 := by omega
  unfold createBackup requirePassphrase createBundle copyManagedPayload copyPayload
  rw [if_neg hshort, hoverlaps, hmanaged, hmedia]
  exact ⟨_, rfl⟩

namespace Copies

variable (h : Copies fold station disk copied managed)

include h

lemma verifyMembers_hashMembers [DecidableEq S] :
    verifyMembers sha256 (stageOf copied managed)
      (hashMembers sha256 (staged managed ++ staged copied) (stageOf copied managed)) = .ok () := by
  refine verifyMembers_ok fun m hm => ?_
  obtain ⟨w, hw, hdigest⟩ := mem_filterMap.mp hm
  obtain ⟨content, hcontent, rfl⟩ := Option.map_eq_some_iff.mp hdigest
  have hrecord : ∃ record, (Record.file record, some w.2) ∈ copied ++ managed ∧
      w.1 = posixParts record.member := by
    rcases mem_append.mp hw with hw | hw
    · obtain ⟨record, hmem, hkey⟩ := mem_staged.mp hw
      exact ⟨record, mem_append_right _ hmem, hkey⟩
    · obtain ⟨record, hmem, hkey⟩ := mem_staged.mp hw
      exact ⟨record, mem_append_left _ hmem, hkey⟩
  obtain ⟨record, hmem, hkey⟩ := hrecord
  obtain ⟨relative, _, slot, -, hfiled⟩ := h.filed hmem
  have hmember : asPosix w.1 = record.member := by
    rw [hkey, hfiled.posixParts_member, ← hfiled.member]
  refine ⟨content, ?_, rfl⟩
  rw [hmember]
  exact hfiled.safeMember_eq (hkey ▸ hcontent)

lemma recorded {record : Record} {c : Option B} (hmem : (record, c) ∈ copied ++ managed)
    {source : Path} (hsource : record.sourcePath = some source) :
    Recorded fold station disk source := by
  cases record with
  | credentialExport => cases hsource
  | mediaRoot source' name? =>
    cases hsource
    exact .inl (h.root_captured hmem).1
  | file record =>
    cases hsource
    obtain ⟨relative, content, slot, -, hfiled⟩ := h.filed hmem
    exact hfiled.captured.recorded

end Copies

end Bundle

/-! ## The restore of the bundle -/

section Restore

variable {json : StateJson B J} {casefold : Text → Text} {fold : Path → Text} {station : Station}
  {disk : Disk B} {copied managed : Copied B} {credentials : Option C}
  {replacement : Replacement B C} {request : RestoreRequest} {T : Path → Path}
  {record : FileRecord} {relative : List Text} {content : B} {slot : Slot} {root : Path}

lemma Filed.safeRelative (h : Filed fold station disk record relative content slot)
    (hkind : record.kind = .media) :
    safeMediaRelativePath (record.relativePath.getD []) = .ok relative := by
  rcases h.kind with ⟨-, hne, hrelative⟩ | ⟨hother, -⟩
  · rw [hrelative]
    exact safeMediaRelativePath_asPosix hne h.captured.legal
  · exact (hother hkind).elim

lemma Filed.stateSource (h : Filed fold station disk record relative content slot)
    (hstate : record.isState casefold = true) :
    relative = [] ∧ StateSource casefold fold station record.sourcePath := by
  obtain ⟨hkind, hname⟩ : record.kind = .config ∧
      casefold record.sourcePath.name = stationStateName := by
    simpa [FileRecord.isState] using hstate
  have hrelative : relative = [] := by
    rcases h.kind with ⟨hmedia, -⟩ | ⟨-, hnil⟩
    · rw [hkind] at hmedia
      cases hmedia
    · exact hnil
  obtain ⟨index, rfl⟩ := h.config.mp hkind
  have horigin := h.origin
  rw [hrelative, joinpath_nil] at horigin
  exact ⟨hrelative, mem_of_getElem? horigin, hname⟩

namespace Accepts

variable (haccepts : Accepts json casefold fold station disk credentials replacement request T)
  (h : Copies fold station disk copied managed)

include haccepts h

lemma targets_ok : ∃ targets, managedRestoreTargets replacement
      (payloadOf copied managed credentials) request.targetPaths = .ok targets ∧
    ∀ source, Recorded fold station disk source → targets source = some (T source) := by
  have hmanagedOk : ∀ record ∈ payloadOf copied managed credentials,
      ManagedOk replacement T record := by
    intro record hmem
    cases record with
    | credentialExport => trivial
    | mediaRoot source name? =>
      obtain ⟨c, hc⟩ := (mem_payloadOf (by simp)).mp hmem
      obtain ⟨hroot, hnames⟩ := h.root_captured hc
      intro name hname
      obtain ⟨hat, hfree, -⟩ := haccepts.managed name source (hnames name hname) hroot.1
      exact ⟨hat, hfree⟩
    | file record =>
      obtain ⟨c, hc⟩ := (mem_payloadOf (by simp)).mp hmem
      obtain ⟨relative, content, slot, -, hfiled⟩ := h.filed hc
      intro name hname
      obtain ⟨hroot, hdir, hkind⟩ := hfiled.managed name hname
      obtain ⟨hat, hfree, -⟩ := haccepts.managed name record.sourcePath hroot hdir
      refine ⟨hat, hfree, fun t ht => ⟨relative, ?_⟩⟩
      have hsafe := hfiled.safeRelative hkind
      rwa [ht] at hsafe
  have hagree : ∀ record ∈ payloadOf copied managed credentials,
      record.managedRoot.isSome = true → ∀ source ∈ record.sourcePath,
        ∀ t ∈ request.targetPaths source, t = T source := by
    intro record hmem hsome source hsource
    obtain ⟨name, hname⟩ := Option.isSome_iff_exists.mp hsome
    cases record with
    | credentialExport => cases hsome
    | mediaRoot source' name? =>
      cases hsource
      obtain ⟨c, hc⟩ := (mem_payloadOf (by simp)).mp hmem
      obtain ⟨hroot, hnames⟩ := h.root_captured hc
      exact (haccepts.managed name source (hnames name hname) hroot.1).2.2
    | file record =>
      cases hsource
      obtain ⟨c, hc⟩ := (mem_payloadOf (by simp)).mp hmem
      obtain ⟨relative, content, slot, -, hfiled⟩ := h.filed hc
      obtain ⟨hroot, hdir, -⟩ := hfiled.managed name hname
      exact (haccepts.managed name record.sourcePath hroot hdir).2.2
  obtain ⟨targets, hok, hgiven, hmanaged⟩ := managedRestoreTargets_ok hmanagedOk hagree
  refine ⟨targets, hok, fun source hsource => ?_⟩
  by_cases hroot : ∃ name, (name, source) ∈ station.managedRoots
  · obtain ⟨name, hroot⟩ := hroot
    -- a managed root that is a file would have stopped the backup
    have hdir : disk.node source = some .dir := by
      rcases hsource with hcaptured | ⟨-, content, hfile⟩
      · exact hcaptured.1
      · exact (h.managedRoot_not_file hroot hfile).elim
    have hrecord : Record.mediaRoot source (some name) ∈ payloadOf copied managed credentials :=
      (mem_payloadOf (by simp)).mpr ⟨none, h.complete_managedRoot hroot hdir⟩
    exact hmanaged _ hrecord rfl source rfl
  · have hother : ∀ name, (name, source) ∉ station.managedRoots :=
      fun name hname => hroot ⟨name, hname⟩
    exact hgiven source (T source) (haccepts.given source hsource hother)

lemma validatePayloadTargets_ok {targets : Targets}
    (htargets : ∀ source, Recorded fold station disk source → targets source = some (T source)) :
    validatePayloadTargets (payloadOf copied managed credentials) targets = .ok () := by
  have hsources : validateSources targets (payloadOf copied managed credentials) = .ok () := by
    refine validateSources_ok fun record hmem source hsource => ?_
    have hne : record ≠ .credentialExport := by
      rintro rfl
      cases hsource
    obtain ⟨c, hc⟩ := (mem_payloadOf hne).mp hmem
    have hrecorded := h.recorded hc hsource
    exact ⟨T source, htargets source hrecorded, haccepts.absolute source hrecorded⟩
  have hrelatives : validateRelatives (payloadOf copied managed credentials) = .ok () := by
    refine validateRelatives_ok fun record hmem hkind => ?_
    obtain ⟨c, hc⟩ := (mem_payloadOf (by simp)).mp hmem
    obtain ⟨relative, content, slot, -, hfiled⟩ := h.filed hc
    exact ⟨relative, hfiled.safeRelative hkind⟩
  unfold validatePayloadTargets
  rw [hsources]
  exact hrelatives

end Accepts

lemma CapturedRoot.isAbsolute (h : CapturedRoot station disk root) : root.isAbsolute = true := by
  refine station.absolute root (mem_append.mpr ?_)
  rcases h.2 with hmedia | ⟨name, hmanaged⟩
  · exact .inl hmedia
  · exact .inr (mem_map.mpr ⟨(name, root), hmanaged, rfl⟩)

namespace Copies

variable (h : Copies fold station disk copied managed)

include h

lemma nodup_stateKeys :
    ((payloadOf copied managed credentials).filterMap (Record.stateKey casefold)).Nodup := by
  obtain ⟨media, hmedia, hcopied⟩ := h.media
  -- a state file is in the configuration
  have hnone : ∀ records : Copied B, (∀ item ∈ records, ∀ record, item.1 = .file record →
      record.kind ≠ .config) →
      (records.map Prod.fst).filterMap (Record.stateKey casefold) = [] := by
    intro records hkinds
    rw [filterMap_eq_nil_iff]
    intro record hmem
    obtain ⟨item, hitem, rfl⟩ := mem_map.mp hmem
    cases hrecord : item.1 with
    | mediaRoot _ _ | credentialExport => rfl
    | file record => simp [Record.stateKey, FileRecord.isState, hkinds item hitem record hrecord]
  have hcredentials : ((copyFiles disk .credentialFile credentialDir
      (station.credentials fold)).map Prod.fst).filterMap (Record.stateKey casefold) = [] := by
    refine hnone _ fun item hitem record hrecord => ?_
    obtain ⟨_, _, _, -, -, rfl⟩ := mem_copyFiles.mp hitem
    cases hrecord
    simp
  have hmediaNone : (media.map Prod.fst).filterMap (Record.stateKey casefold) = [] := by
    refine hnone _ fun item hitem record hrecord => ?_
    obtain ⟨_, _, here, -, hhere, hmem⟩ := (mem_copyEach hmedia).mp hitem
    obtain ⟨-, rfl | ⟨_, _, -, -, rfl⟩⟩ := (mem_copyMediaRoot hhere).mp hmem
    · cases hrecord
    · cases hrecord
      simp
  have hmanagedNone : (managed.map Prod.fst).filterMap (Record.stateKey casefold) = [] := by
    refine hnone _ fun item hitem record hrecord => ?_
    obtain ⟨_, _, here, -, hhere, hmem⟩ := (mem_copyEach h.managed).mp hitem
    obtain ⟨-, rfl | ⟨_, _, _, -, -, -, -, rfl⟩⟩ := (mem_copyManagedRoot hhere).mp hmem
    · cases hrecord
    · cases hrecord
      simp
  have hexports : ((credentials.toList.map fun _ => Record.credentialExport).filterMap
      (Record.stateKey casefold)) = [] := by
    rw [filterMap_eq_nil_iff]
    intro record hmem
    obtain ⟨_, -, rfl⟩ := mem_map.mp hmem
    rfl
  unfold payloadOf
  rw [hcopied]
  simp only [map_append, filterMap_append, hcredentials, hmediaNone, hmanagedNone,
    hexports, append_nil]
  exact nodup_stateKeys_copyFiles

/-- After the state files are mapped, a member is what was captured, or it is of a state file. -/
lemma remapped (credentials : Option C) {mappings : Mappings}
    (hrelocates : Relocates (CapturedRoot station disk) T mappings)
    (hstates : mappings ≠ [] → ∀ source content, StateSource casefold fold station source →
      disk.node source = some (.file content) → (json.loads content).isSome = true) :
    ∃ stage, remapStationStatePayload json casefold mappings
        (payloadOf copied managed credentials) (stageOf copied managed) = .ok stage ∧
      ∀ record content, (.file record, some content) ∈ copied ++ managed →
        stage (posixParts record.member) = some content ∨
        record.isState casefold = true ∧
          ∃ content', StateFollows json (CapturedRoot station disk) T content content' ∧
            stage (posixParts record.member) = some content' := by
  unfold remapStationStatePayload
  by_cases hempty : mappings = []
  · rw [if_pos hempty]
    exact ⟨_, rfl, fun record content hmem => .inl (h.stage_eq hmem)⟩
  rw [if_neg hempty]
  -- a key of a state file is that of a captured file, and what it maps to follows the roots
  have hfollows : ∀ key ∈ (payloadOf copied managed credentials).filterMap
      (Record.stateKey casefold), ∃ record relative content slot,
        (Record.file record, some content) ∈ copied ++ managed ∧
        Filed fold station disk record relative content slot ∧
        record.isState casefold = true ∧ posixParts record.member = key ∧
        ∃ content', remapState json mappings content = .ok content' ∧
          StateFollows json (CapturedRoot station disk) T content content' := by
    intro key hkey
    obtain ⟨record, hrecord, hkey⟩ := mem_filterMap.mp hkey
    cases record with
    | mediaRoot _ _ | credentialExport => cases hkey
    | file record =>
      obtain ⟨hstate, hkey⟩ : record.isState casefold = true ∧ posixParts record.member = key := by
        simpa [Record.stateKey] using hkey
      obtain ⟨c, hmem⟩ := (mem_payloadOf (by simp)).mp hrecord
      obtain ⟨relative, content, slot, rfl, hfiled⟩ := h.filed hmem
      obtain ⟨rfl, hsource⟩ := hfiled.stateSource hstate
      have hnode : disk.node record.sourcePath = some (.file content) := by
        rw [← joinpath_nil record.sourcePath]
        exact hfiled.captured.node
      have hvalid := hstates hempty record.sourcePath content hsource hnode
      exact ⟨record, [], content, slot, hmem, hfiled, hstate, hkey,
        remapState_ok hrelocates (fun root hroot => hroot.isAbsolute) hvalid⟩
  have hsafe : ∀ record, Record.file record ∈ payloadOf copied managed credentials →
      ∀ (stage : Stage B) content, stage (posixParts record.member) = some content →
        safeMember stage record.member = .ok content := by
    intro record hrecord stage content hcontent
    obtain ⟨c, hmem⟩ := (mem_payloadOf (by simp)).mp hrecord
    obtain ⟨_, _, _, -, hfiled⟩ := h.filed hmem
    exact hfiled.safeMember_eq hcontent
  have hvalid : ∀ key ∈ (payloadOf copied managed credentials).filterMap
      (Record.stateKey casefold), ∃ content content', stageOf copied managed key = some content ∧
        remapState json mappings content = .ok content' := by
    intro key hkey
    obtain ⟨record, _, content, _, hmem, -, -, rfl, content', hremap, -⟩ := hfollows key hkey
    exact ⟨content, content', h.stage_eq hmem, hremap⟩
  obtain ⟨stage, hok, hkept, hmapped⟩ := remapStates_ok hsafe hvalid h.nodup_stateKeys
  refine ⟨stage, hok, fun record content hmem => ?_⟩
  have hstage := h.stage_eq hmem
  by_cases hkey : posixParts record.member ∈ (payloadOf copied managed credentials).filterMap
      (Record.stateKey casefold)
  · obtain ⟨record', relative', content₁, slot', hmem', hfiled', hstate', hmember, content₂,
      hremap₂, hfollow⟩ := hfollows _ hkey
    obtain ⟨relative, _, slot, hcontent, hfiled⟩ := h.filed hmem
    cases hcontent
    -- a member of a state file is of that file only
    obtain ⟨rfl, rfl⟩ := hfiled'.eq_of_member hfiled hmember
    obtain ⟨hnil', -⟩ := hfiled'.stateSource hstate'
    have hconfig' : record'.kind = .config := by
      simp only [FileRecord.isState, Bool.and_eq_true, decide_eq_true_eq] at hstate'
      exact hstate'.1
    have hconfig : record.kind = .config := hfiled.config.mpr (hfiled'.config.mp hconfig')
    have hnil : relative = [] := by
      rcases hfiled.kind with ⟨hmedia, -⟩ | ⟨-, hnil⟩
      · rw [hconfig] at hmedia
        cases hmedia
      · exact hnil
    have hsource : record'.sourcePath = record.sourcePath := by
      have horigin := hfiled'.origin.symm.trans hfiled.origin
      rw [hnil, hnil', joinpath_nil, joinpath_nil] at horigin
      exact Option.some.inj horigin
    have hstate : record.isState casefold = true := by
      simp only [FileRecord.isState, hconfig', hconfig, hsource] at hstate' ⊢
      exact hstate'
    obtain ⟨content', hremap, hstage'⟩ := hmapped _ hkey _ hstage
    obtain rfl : content₂ = content' := Except.ok.inj (hremap₂.symm.trans hremap)
    exact .inr ⟨hstate, content₂, hfollow, hstage'⟩
  · exact .inl ((hkept _ hkey).trans hstage)

end Copies

/-! ## What is written -/

/-- The writes of the payload are the captured files, each at its target. -/
structure Writes (json : StateJson B J) (casefold : Text → Text) (fold : Path → Text)
    (station : Station) (disk : Disk B) (T : Path → Path) (writes : List (Path × B)) : Prop where
  sound : ∀ w ∈ writes, ∃ source relative content,
    Captured fold station disk source relative content ∧ w.1 = (T source).joinpath relative ∧
    (w.2 = content ∨ StateSource casefold fold station source ∧ relative = [] ∧
      StateFollows json (CapturedRoot station disk) T content w.2)
  complete : ∀ source relative content, Captured fold station disk source relative content →
    ∃ w ∈ writes, w.1 = (T source).joinpath relative

lemma Filed.restoreTarget_ok {targets : Targets} {stage : Stage B} {c : B}
    (h : Filed fold station disk record relative content slot)
    (htarget : targets record.sourcePath = some (T record.sourcePath))
    (hstage : stage (posixParts record.member) = some c) :
    restoreTarget targets stage record = .ok ((T record.sourcePath).joinpath relative, c) := by
  unfold restoreTarget
  simp only [htarget, h.safeMember_eq hstage]
  change (if record.kind = .media then _ else _) = _
  by_cases hkind : record.kind = .media
  · rw [if_pos hkind, h.safeRelative hkind]
    rfl
  · have hnil : relative = [] := by
      rcases h.kind with ⟨hmedia, -⟩ | ⟨-, hnil⟩
      · exact (hkind hmedia).elim
      · exact hnil
    rw [if_neg hkind, hnil, joinpath_nil]
    rfl

/-- With targets apart, a target tells which captured file goes there. -/
lemma Apart.target_inj (hapart : Apart fold station disk T) {source source' : Path}
    {relative' : List Text} {content' : B}
    (hcaptured : Captured fold station disk source relative content)
    (hcaptured' : Captured fold station disk source' relative' content')
    (htarget : (T source).joinpath relative = (T source').joinpath relative') :
    source = source' ∧ relative = relative' ∧ content = content' := by
  have hsource : source = source' := by
    by_contra hne
    have habove : (T source).Above ((T source).joinpath relative) := ⟨relative, rfl⟩
    have habove' : (T source').Above ((T source).joinpath relative) := ⟨relative', htarget⟩
    -- of two targets above one path, one is above the other
    rcases Nat.le_total (T source).parts.length (T source').parts.length with hle | hle
    · exact hapart _ _ hcaptured.recorded hcaptured'.recorded hne (habove.of_length habove' hle)
    · exact hapart _ _ hcaptured'.recorded hcaptured.recorded (Ne.symm hne)
        (habove'.of_length habove hle)
  subst hsource
  obtain rfl : relative = relative' := joinpath_inj.mp htarget
  have hnode : some (Node.file content) = some (Node.file content') := by
    rw [← hcaptured.node, ← hcaptured'.node]
  cases hnode
  exact ⟨rfl, rfl, rfl⟩

lemma Accepts.restoreBundle_ok [DecidableEq S] (sha256 : B → S) (database : Database D)
    (haccepts : Accepts json casefold fold station disk credentials replacement request T)
    (h : Copies fold station disk copied managed)
    (hfold : ∀ root root', CapturedRoot station disk root → CapturedRoot station disk root' →
      fold root = fold root' → root = root') :
    ∃ targets mappings writes count, restoreBundle sha256 json casefold fold replacement request
        { stage := stageOf copied managed
          members := hashMembers sha256 (staged managed ++ staged copied) (stageOf copied managed)
          payload := payloadOf copied managed credentials
          credentials := credentials
          database := database } =
        .ok ⟨writeAll writes (preserveManagedRoots request.stamp replacement.isDir targets
          (payloadOf copied managed credentials) replacement.files),
          remapDatabase mappings database, count⟩ ∧
      (∀ source, Recorded fold station disk source → targets source = some (T source)) ∧
      Relocates (CapturedRoot station disk) T mappings ∧
      Writes json casefold fold station disk T writes := by
  obtain ⟨targets, hmanaged, htargets⟩ := haccepts.targets_ok h
  have hvalidate := haccepts.validatePayloadTargets_ok h htargets
  have hroots : ∀ source name?,
      Record.mediaRoot source name? ∈ payloadOf copied managed credentials →
      CapturedRoot station disk source ∧ source.isAbsolute = true ∧
        targets source = some (T source) ∧ (T source).isAbsolute = true := by
    intro source name? hmem
    obtain ⟨c, hc⟩ := (mem_payloadOf (by simp)).mp hmem
    have hroot : CapturedRoot station disk source := (h.root_captured hc).1
    exact ⟨hroot, hroot.isAbsolute, htargets source (.inl hroot),
      haccepts.absolute source (.inl hroot)⟩
  have hall : ∀ root, CapturedRoot station disk root →
      ∃ name?, Record.mediaRoot root name? ∈ payloadOf copied managed credentials := by
    intro root hroot
    obtain ⟨name?, hmem⟩ := h.complete_root hroot
    exact ⟨name?, (mem_payloadOf (by simp)).mpr ⟨none, hmem⟩⟩
  obtain ⟨mappings, hmappings, hrelocates⟩ := mediaPathMappings_ok hfold hroots hall
  have hstates : mappings ≠ [] → ∀ source content, StateSource casefold fold station source →
      disk.node source = some (.file content) → (json.loads content).isSome = true := by
    intro hne
    obtain ⟨m, hm⟩ := exists_mem_of_ne_nil mappings hne
    obtain ⟨hroot, hmoves, -⟩ := (hrelocates.mem m).mp hm
    exact haccepts.states m.1 hroot hmoves
  obtain ⟨stage, hremap, hstage⟩ := h.remapped credentials hrelocates hstates
  -- where a record goes, and with what
  have hwrite : ∀ {record relative content slot}, (.file record, some content) ∈ copied ++ managed →
      Filed fold station disk record relative content slot →
      ∃ c, restoreTarget targets stage record = .ok ((T record.sourcePath).joinpath relative, c) ∧
        (c = content ∨ StateSource casefold fold station record.sourcePath ∧ relative = [] ∧
          StateFollows json (CapturedRoot station disk) T content c) := by
    intro record relative content slot hc hfiled
    have htarget := htargets record.sourcePath hfiled.captured.recorded
    rcases hstage record content hc with hsame | ⟨hstate, content', hfollows, hmoved⟩
    · exact ⟨content, hfiled.restoreTarget_ok htarget hsame, .inl rfl⟩
    · obtain ⟨hnil, hsource⟩ := hfiled.stateSource hstate
      exact ⟨content', hfiled.restoreTarget_ok htarget hmoved, .inr ⟨hsource, hnil, hfollows⟩⟩
  have hwrites : ∀ record, Record.file record ∈ payloadOf copied managed credentials →
      ∃ w, restoreTarget targets stage record = .ok w := by
    intro record hmem
    obtain ⟨c, hc⟩ := (mem_payloadOf (by simp)).mp hmem
    obtain ⟨relative, content, slot, rfl, hfiled⟩ := h.filed hc
    obtain ⟨c, hok, -⟩ := hwrite hc hfiled
    exact ⟨_, hok⟩
  obtain ⟨writes, hrestore, hmem⟩ := restorePayload_ok
    (preserveManagedRoots request.stamp replacement.isDir targets
      (payloadOf copied managed credentials) replacement.files) 0 hwrites
  refine ⟨targets, mappings, writes, 0 + writes.length, ?_, htargets, hrelocates, ?_, ?_⟩
  · unfold restoreBundle
    simp only [h.verifyMembers_hashMembers, hmanaged, hvalidate, hmappings, hremap,
      haccepts.importable, hrestore, bind, Except.bind, pure, Except.pure]
  · intro w hw
    obtain ⟨record, hrecord, hok⟩ := (hmem w).mp hw
    obtain ⟨c, hc⟩ := (mem_payloadOf (by simp)).mp hrecord
    obtain ⟨relative, content, slot, rfl, hfiled⟩ := h.filed hc
    obtain ⟨c, hok', hcontent⟩ := hwrite hc hfiled
    obtain rfl := Except.ok.inj (hok.symm.trans hok')
    exact ⟨record.sourcePath, relative, content, hfiled.captured, rfl, hcontent⟩
  · intro source relative content hcaptured
    obtain ⟨record, hc, rfl, hkind⟩ := h.complete hcaptured
    obtain ⟨relative', _, slot, hcontent, hfiled⟩ := h.filed hc
    cases hcontent
    obtain rfl : relative' = relative := hfiled.relative_eq hcaptured.legal hkind
    obtain ⟨c, hok, -⟩ := hwrite hc hfiled
    have hrecord : Record.file record ∈ payloadOf copied managed credentials :=
      (mem_payloadOf (by simp)).mpr ⟨_, hc⟩
    exact ⟨_, (hmem _).mpr ⟨record, hrecord, hok⟩, rfl⟩

namespace Writes

variable {writes : List (Path × B)} {files : Path → Option B} {source : Path}

lemma at_target (h : Writes json casefold fold station disk T writes)
    (hapart : Apart fold station disk T)
    (hcaptured : Captured fold station disk source relative content) :
    writeAll writes files ((T source).joinpath relative) = some content ∨
      StateSource casefold fold station source ∧ relative = [] ∧
        ∃ content', StateFollows json (CapturedRoot station disk) T content content' ∧
          writeAll writes files (T source) = some content' := by
  obtain ⟨w, hw, htarget, hfile⟩ := writeAll_of_mem (h.complete source relative content hcaptured)
    files
  -- the last write at this path is of this file, since the targets are apart
  obtain ⟨source', relative', content', hcaptured', htarget', hcontent⟩ := h.sound w hw
  obtain ⟨rfl, rfl, rfl⟩ := hapart.target_inj hcaptured' hcaptured (htarget'.symm.trans htarget)
  rcases hcontent with hsame | ⟨hstate, rfl, hfollows⟩
  · exact .inl (hsame ▸ hfile)
  · rw [joinpath_nil] at hfile
    exact .inr ⟨hstate, rfl, w.2, hfollows, hfile⟩

lemma off_target (h : Writes json casefold fold station disk T writes) {p : Path}
    (hp : NoTarget fold station disk T p) : writeAll writes files p = files p := by
  refine writeAll_of_not_mem fun w hw heq => ?_
  obtain ⟨source, relative, content, hcaptured, htarget, -⟩ := h.sound w hw
  exact hp source relative content hcaptured (heq.symm.trans htarget)

end Writes

/-- The root that governs a captured file has captured it too, where it keeps the file. -/
lemma Kept.captured {p : Path} (hkept : Kept station disk T p)
    (hfile : disk.node p = some (.file content))
    (hgoverns : Governs (CapturedRoot station disk) T root p) :
    ∃ relative, relative ≠ [] ∧ root.joinpath relative = p ∧
      Captured fold station disk root relative content := by
  obtain ⟨relative, rfl⟩ := hgoverns.above
  obtain ⟨hdir, hroot⟩ := hgoverns.captured
  have hne : relative ≠ [] := by
    rintro rfl
    rw [joinpath_nil, hdir] at hfile
    cases hfile
  refine ⟨relative, hne, rfl, ?_⟩
  rcases hkept root hgoverns with hmedia | hname
  · exact .media hmedia hdir hne hfile
  · rcases hroot with hmedia | ⟨name, hmanaged⟩
    · exact .media hmedia hdir hne hfile
    · exact .managed hmanaged hdir hne hfile hname

lemma asset_follows {writes : List (Path × B)} {files : Path → Option B} {database : Database D}
    {count : ℕ} (h : Writes json casefold fold station disk T writes)
    (hapart : Apart fold station disk T) {column : Column}
    (hfollows : Follows (CapturedRoot station disk) T (some (root.joinpath relative)) column)
    (hroot : CapturedRoot station disk root) (hne : relative ≠ [])
    (hcaptured : Captured fold station disk root relative content)
    (hkept : Kept station disk T (root.joinpath relative)) :
    ∃ path, column = some path ∧ RestoredAt fold station disk T (root.joinpath relative)
      ⟨writeAll writes files, database, count⟩ path content := by
  have hrestored : ∀ {source rest}, Captured fold station disk source rest content → rest ≠ [] →
      source.joinpath rest = root.joinpath relative →
      RestoredAt fold station disk T (root.joinpath relative)
        ⟨writeAll writes files, database, count⟩ ((T source).joinpath rest) content := by
    intro source rest hsource hrest hp
    refine ⟨⟨source, rest, hsource, hp, rfl⟩, ?_⟩
    rcases h.at_target hapart hsource with hfile | ⟨-, hnil, -⟩
    · exact hfile
    · exact (hrest hnil).elim
  generalize hp : root.joinpath relative = p at hfollows hkept
  have hnode : disk.node p = some (.file content) := hp ▸ hcaptured.node
  generalize hcolumn : some p = column' at hfollows
  cases hfollows with
  | moved hgoverns =>
    -- the root that governs the path was restored elsewhere
    cases hcolumn
    obtain ⟨rest, hrest, heq, hgoverned⟩ := hkept.captured hnode hgoverns
    rw [joinpath_inj.mp heq] at hgoverned hrest
    exact ⟨_, rfl, hp ▸ hrestored hgoverned hrest hp.symm⟩
  | stays hstays =>
    subst hcolumn
    have hstay : T root = root := hstays p rfl root hroot ⟨relative, hp.symm⟩
    refine ⟨p, rfl, ?_⟩
    have hhere := hrestored hcaptured hne rfl
    rw [hstay, hp] at hhere
    exact hhere

/-- Backup and restore are inverse, for every nesting of the roots. -/
theorem restored_as_captured [DecidableEq S] (vault : Vault B S C D A) (sha256 : B → S)
    (json : StateJson B J) (casefold : Text → Text) (fold : Path → Text) (station : Station)
    (disk : Disk B) (database : Database D) (credentials : Option C)
    (replacement : Replacement B C) (request : RestoreRequest) (T : Path → Path) (archive : A)
    (hcreate : createBackup vault sha256 fold station disk database credentials
      request.passphrase = .ok archive)
    (haccepts : Accepts json casefold fold station disk credentials replacement request T)
    (hapart : Apart fold station disk T)
    (hfold : ∀ root root', CapturedRoot station disk root → CapturedRoot station disk root' →
      fold root = fold root' → root = root') :
    ∃ restored, restoreBackup vault sha256 json casefold fold replacement request archive =
        .ok restored ∧
      RoundTrip json casefold fold station disk replacement request T database restored := by
  obtain ⟨hpassphrase, copied, managed, hcopies, rfl⟩ := createBackup_ok hcreate
  obtain ⟨targets, mappings, writes, count, hrestore, htargets, hrelocates, hwrites⟩ :=
    haccepts.restoreBundle_ok sha256 database hcopies hfold
  refine ⟨⟨writeAll writes (preserveManagedRoots request.stamp replacement.isDir targets
    (payloadOf copied managed credentials) replacement.files), remapDatabase mappings database,
    count⟩, ?_, ⟨fun source relative content => hwrites.at_target hapart, ?_, ?_⟩⟩
  · have hacknowledged : (replacement.credentialDestination &&
        !request.restoreLocalStationSettings) = false := by
      cases hdestination : replacement.credentialDestination with
      | false => rfl
      | true => rw [haccepts.acknowledged hdestination]; rfl
    unfold restoreBackup
    rw [hpassphrase, vault.unlock_lock, hacknowledged, haccepts.stopped]
    exact hrestore
  · -- off the targets only managed roots are moved out of the way
    intro p hp
    constructor
    · intro houtside
      change writeAll writes _ p = _
      rw [hwrites.off_target hp]
      refine preserveManagedRoots_of_not_above fun source name hmem root hroot => ?_
      obtain ⟨c, hc⟩ := (mem_payloadOf (by simp)).mp hmem
      obtain ⟨hcaptured, hnames⟩ := hcopies.root_captured hc
      have htarget := htargets source (.inl hcaptured)
      obtain rfl : T source = root := Option.some.inj (htarget.symm.trans hroot)
      exact houtside name source (hnames name rfl) hcaptured.1
    · intro content hcontent
      change writeAll writes _ p = _ at hcontent
      rw [hwrites.off_target hp] at hcontent
      exact preserveManagedRoots_old hcontent
  · change List.Forall₂ _ database.assets (database.assets.map _)
    rw [forall₂_map_right_iff, forall₂_same]
    refine fun row _ => ⟨rfl, fun root relative content hroot hne hcaptured hpath hkept => ?_⟩
    have hfollows := hrelocates.remapColumn_follows (fun root hroot => hroot.isAbsolute)
      row.filePath
    rw [hpath] at hfollows
    rw [hpath]
    exact asset_follows hwrites hapart hfollows hroot hne hcaptured hkept

end Restore

/-! ## A station with nested roots -/

def Station.sources (fold : Path → Text) (station : Station) : List Path :=
  station.configs fold ++ station.credentials fold ++ station.mediaRoots ++
    station.managedRoots.map Prod.snd

lemma Recorded.mem_sources {fold : Path → Text} {station : Station} {disk : Disk B} {source : Path}
    (h : Recorded fold station disk source) : source ∈ station.sources fold := by
  simp only [Station.sources, mem_append, mem_map]
  rcases h with ⟨-, hmedia | ⟨name, hmanaged⟩⟩ | ⟨hconfig | hcredential, -⟩
  · exact .inl (.inr hmedia)
  · exact .inr ⟨(name, source), hmanaged, rfl⟩
  · exact .inl (.inl (.inl hconfig))
  · exact .inl (.inl (.inr hcredential))

/-- A state file is its document here, and a clip is no document. -/
inductive SampleContent where
  | clip
  | state (locations : Option StorageLocations)
  deriving DecidableEq

def sampleJson : StateJson SampleContent Unit where
  loads
    | .clip => none
    | .state locations => some ⟨locations, ()⟩
  dumps document := .state document.storageLocations

def sampleVault : Vault SampleContent SampleContent Unit Unit
    (Text × Bundle SampleContent SampleContent Unit Unit) where
  lock passphrase bundle := (passphrase, bundle)
  unlock passphrase archive := if archive.1 = passphrase then some archive.2 else none
  unlock_lock _ _ := if_pos rfl

def sampleFold (p : Path) : Text := Text.lower (p.anchor ++ asPosix p.parts)

def sampleState : Path := ⟨['/'], [['c'], stationStateName]⟩

def sampleLibrary : Path := ⟨['/'], [['m']]⟩

def sampleInner : Path := ⟨['/'], [['m'], ['s']]⟩

def sampleClip : Path := ⟨['/'], [['m'], ['s'], ['a']]⟩

def sampleAgendas : Path := ⟨['/'], [['g']]⟩

def sampleAgenda : Path := ⟨['/'], [['g'], ['b']]⟩

def sampleDocument (library : Path) : SampleContent := .state (some ⟨some library, none, none⟩)

def sampleDisk : Disk SampleContent where
  entries := [(sampleState, .file (sampleDocument sampleLibrary)), (sampleLibrary, .dir),
    (sampleInner, .dir), (sampleClip, .file .clip), (sampleAgendas, .dir),
    (sampleAgenda, .file .clip)]
  nodup := by decide
  legal := by decide +kernel
  named := by
    intro p content hmem
    have hall : ∀ q ∈ [sampleState, sampleLibrary, sampleInner, sampleClip, sampleAgendas,
        sampleAgenda], q.parts ≠ [] := by decide
    exact hall p (List.mem_map_of_mem (f := Prod.fst) hmem)

def sampleStation : Station where
  destination := ⟨['/'], [['d']]⟩
  configPaths := [sampleState]
  dynamicConfigPaths := []
  credentialPaths := []
  dynamicCredentialPaths := []
  mediaRoots := [sampleLibrary, sampleInner]
  managedRoots := [(['g'], sampleAgendas)]
  absolute := by decide

/-- The inner root stays where it is, and the root around it moves. -/
def sampleTarget (source : Path) : Path :=
  if source = sampleState then ⟨['/'], [['k']]⟩
  else if source = sampleLibrary then ⟨['/'], [['n']]⟩
  else if source = sampleAgendas then ⟨['/'], [['h']]⟩
  else source

def sampleReplacement : Replacement SampleContent Unit where
  managedRoots name := if name = ['g'] then some ⟨['/'], [['h']]⟩ else none
  credentialDestination := false
  credentialImporter := false
  credentialValidator _ := false
  files _ := none
  isDir _ := false

def sampleRequest : RestoreRequest where
  passphrase := List.replicate 12 'x'
  targetPaths source :=
    if source ∈ [sampleState, sampleLibrary, sampleInner] then some (sampleTarget source) else none
  writersStopped := true
  restoreLocalStationSettings := false
  stamp := ['z']

def sampleDatabase : Database Unit :=
  ⟨[⟨['i'], some sampleClip, none⟩], [some sampleLibrary], [], ()⟩

lemma sample_accepts : Accepts sampleJson Text.lower sampleFold sampleStation sampleDisk none
    sampleReplacement sampleRequest sampleTarget := by
  have hsources : ∀ source ∈ sampleStation.sources sampleFold,
      (sampleTarget source).isAbsolute = true ∧ (source ≠ sampleAgendas →
        sampleRequest.targetPaths source = some (sampleTarget source)) := by decide +kernel
  constructor
  · nofun
  · rfl
  · rfl
  · intro source hsource hother
    refine (hsources source hsource.mem_sources).2 ?_
    rintro rfl
    exact hother ['g'] (mem_singleton_self _)
  · intro name root hmem _
    cases mem_singleton.mp hmem
    have hnone : sampleRequest.targetPaths sampleAgendas = none := by decide +kernel
    exact ⟨rfl, rfl, by simp [hnone]⟩
  · exact fun source hsource => (hsources source hsource.mem_sources).1
  · rintro _ - - source content ⟨hconfig, -⟩ hfile
    have hconfigs : sampleStation.configs sampleFold = [sampleState] := by decide +kernel
    rw [hconfigs, mem_singleton] at hconfig
    subst hconfig
    cases hfile
    rfl

/-- The clip is under two roots, and the asset follows the one that moves. -/
theorem sample_restored : ∃ archive restored,
    createBackup sampleVault id sampleFold sampleStation sampleDisk sampleDatabase none
      sampleRequest.passphrase = .ok archive ∧
    restoreBackup sampleVault id sampleJson Text.lower sampleFold sampleReplacement sampleRequest
      archive = .ok restored ∧
    RoundTrip sampleJson Text.lower sampleFold sampleStation sampleDisk sampleReplacement
      sampleRequest sampleTarget sampleDatabase restored := by
  have hroots : ∀ root ∈ sampleStation.mediaRoots ++ sampleStation.managedRoots.map Prod.snd,
      ∀ content, sampleDisk.node root ≠ some (.file content) := by
    intro root hroot content
    have hdir : ∀ root ∈ [sampleLibrary, sampleInner, sampleAgendas],
        sampleDisk.node root = some .dir := by
      rw [forall_mem_cons, forall_mem_cons, forall_mem_singleton]
      exact ⟨rfl, rfl, rfl⟩
    rw [hdir root hroot]
    simp
  obtain ⟨archive, hcreate⟩ := createBackup_returns sampleVault id sampleFold sampleDatabase none
    sampleRequest.passphrase (by decide) (by decide) hroots
  have hapart : ∀ source ∈ sampleStation.sources sampleFold,
      ∀ source' ∈ sampleStation.sources sampleFold, source ≠ source' →
        ¬(sampleTarget source).Above (sampleTarget source') := by decide +kernel
  have hfold : ∀ root ∈ sampleStation.sources sampleFold,
      ∀ root' ∈ sampleStation.sources sampleFold,
        sampleFold root = sampleFold root' → root = root' := by decide +kernel
  obtain ⟨restored, hrestore, htrip⟩ := restored_as_captured sampleVault id sampleJson Text.lower
    sampleFold sampleStation sampleDisk sampleDatabase none sampleReplacement sampleRequest
    sampleTarget archive hcreate sample_accepts
    (fun source source' h h' => hapart source h.mem_sources source' h'.mem_sources)
    (fun root root' h h' =>
      hfold root (Recorded.mem_sources (.inl h)) root' (Recorded.mem_sources (.inl h')))
  exact ⟨archive, restored, hcreate, hrestore, htrip⟩

/-! ## A state file that names a root -/

def plainDisk : Disk SampleContent where
  entries := [(sampleState, .file (sampleDocument sampleLibrary)), (sampleLibrary, .dir)]
  nodup := by decide
  legal := by decide +kernel
  named := by
    intro p content hmem
    have hall : ∀ q ∈ [sampleState, sampleLibrary], q.parts ≠ [] := by decide
    exact hall p (List.mem_map_of_mem (f := Prod.fst) hmem)

def plainStation : Station :=
  { sampleStation with
    mediaRoots := [sampleLibrary]
    managedRoots := []
    absolute := by decide }

def plainMember : List Text := fileParts configDir 0 stationStateName

def plainBundle : Bundle SampleContent SampleContent Unit Unit where
  stage := writeAll [(plainMember, sampleDocument sampleLibrary)] fun _ => none
  members := [(asPosix plainMember, sampleDocument sampleLibrary)]
  payload := [.file ⟨.config, asPosix plainMember, sampleState, none, none⟩,
    .mediaRoot sampleLibrary none]
  credentials := none
  database := sampleDatabase

lemma plain_created : createBackup sampleVault id sampleFold plainStation plainDisk
    sampleDatabase none sampleRequest.passphrase =
      .ok (sampleRequest.passphrase, plainBundle) := by
  have hchildren : plainDisk.children sampleLibrary = [] := by
    have hnone : (plainDisk.entries.filter fun e =>
        (e.1.relativeTo sampleLibrary).any (· ≠ [])) = [] := rfl
    unfold Disk.children
    rw [hnone, mergeSort_nil]
  have hcopied : copyPayload sampleFold plainDisk plainStation =
      .ok [(.file ⟨.config, asPosix plainMember, sampleState, none, none⟩,
        some (sampleDocument sampleLibrary)), (.mediaRoot sampleLibrary none, none)] := by
    unfold copyPayload
    simp only [plainStation, copyEach, copyMediaRoot, hchildren]
    rfl
  have hkey : posixParts (asPosix plainMember) = plainMember := by decide +kernel
  have hstaged : staged [(Record.file ⟨.config, asPosix plainMember, sampleState, none, none⟩,
      some (sampleDocument sampleLibrary)), (.mediaRoot sampleLibrary none, none)] =
      [(plainMember, sampleDocument sampleLibrary)] := by
    simp [staged, hkey]
  have hbundle : createBundle id sampleFold plainStation plainDisk sampleDatabase none =
      .ok plainBundle := by
    unfold createBundle
    rw [hcopied]
    change Except.ok (Bundle.mk (writeAll (staged _) _) (hashMembers id (staged _) _) _ none _) = _
    rw [hstaged]
    simp [plainBundle, hashMembers, writeAll]
  unfold createBackup
  rw [hbundle]
  rfl

lemma plain_restored : restoreBundle id sampleJson Text.lower sampleFold sampleReplacement
    sampleRequest plainBundle =
      .ok ⟨writeAll [(sampleTarget sampleState, sampleDocument (sampleTarget sampleLibrary))]
        fun _ => none, remapDatabase [(sampleLibrary, sampleTarget sampleLibrary)] sampleDatabase,
        1⟩ := by
  have hverify : verifyMembers id plainBundle.stage plainBundle.members = .ok () := rfl
  have hmanaged : managedRestoreTargets sampleReplacement plainBundle.payload
      sampleRequest.targetPaths = .ok sampleRequest.targetPaths := rfl
  have hvalidate : validatePayloadTargets plainBundle.payload sampleRequest.targetPaths =
      .ok () := rfl
  have hmappings : mediaPathMappings sampleFold plainBundle.payload sampleRequest.targetPaths =
      .ok [(sampleLibrary, sampleTarget sampleLibrary)] := by
    have hroots : rootMappings sampleFold sampleRequest.targetPaths plainBundle.payload [] =
        .ok [(sampleLibrary, sampleTarget sampleLibrary)] := by decide +kernel
    have hmoves : [(sampleLibrary, sampleTarget sampleLibrary)].filter (fun m => m.1 ≠ m.2) =
        [(sampleLibrary, sampleTarget sampleLibrary)] := by decide +kernel
    unfold mediaPathMappings
    rw [hroots]
    change Except.ok (([(sampleLibrary, sampleTarget sampleLibrary)].filter
      fun m => m.1 ≠ m.2).mergeSort _) = _
    rw [hmoves, mergeSort_singleton]
  have hremap : remapStationStatePayload sampleJson Text.lower
      [(sampleLibrary, sampleTarget sampleLibrary)] plainBundle.payload plainBundle.stage =
      .ok (Function.update plainBundle.stage plainMember
        (some (sampleDocument (sampleTarget sampleLibrary)))) := rfl
  unfold restoreBundle
  simp only [hverify, hmanaged, hvalidate, hmappings, hremap, bind, Except.bind]
  rfl

/-- A state file that names a root is not restored with the bytes that were captured. -/
theorem state_file_rewritten : ∃ archive restored,
    createBackup sampleVault id sampleFold plainStation plainDisk sampleDatabase none
      sampleRequest.passphrase = .ok archive ∧
    restoreBackup sampleVault id sampleJson Text.lower sampleFold sampleReplacement sampleRequest
      archive = .ok restored ∧
    Apart sampleFold plainStation plainDisk sampleTarget ∧
    Captured sampleFold plainStation plainDisk sampleState [] (sampleDocument sampleLibrary) ∧
    sampleRequest.targetPaths sampleState = some (sampleTarget sampleState) ∧
    restored.files ((sampleTarget sampleState).joinpath []) ≠
      some (sampleDocument sampleLibrary) := by
  have hapart : ∀ source ∈ plainStation.sources sampleFold,
      ∀ source' ∈ plainStation.sources sampleFold, source ≠ source' →
        ¬(sampleTarget source).Above (sampleTarget source') := by decide +kernel
  refine ⟨_, _, plain_created, plain_restored, ?_, ?_, rfl, by decide +kernel⟩
  · exact fun source source' h h' => hapart source h.mem_sources source' h'.mem_sources
  · exact .config (by decide +kernel) rfl

end CivicCast.Backup.Archive
