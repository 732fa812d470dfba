import CivicCast.Lib.Paths

/-!
# Station backups and their restore

`StationBackupService.create_backup` copies configuration files, credential files, media roots and
managed roots into a bundle, each file under a member name of its own, and records for each where
it came from. `restore_backup` writes the files of a bundle to the paths that a mapping of the
recorded sources gives, and rewrites the media paths in the database and in the station's state
file by the same mapping, the longest root first.

Encryption and the zip are a `Vault`, the digest and the JSON of the state file are parameters,
and the database is restored as it was dumped. A path in the database or in the state file is kept
as a path, not as text.
-/

namespace CivicCast.Backup.Archive

open Lib Function

/-! ## The station that is backed up -/

inductive Node (B : Type) where
  | file (content : B)
  | dir

/-- Files and directories, without links, under names that Windows allows. -/
structure Disk (B : Type) where
  entries : List (Path × Node B)
  nodup : (entries.map Prod.fst).Nodup
  legal : ∀ e ∈ entries, ∀ part ∈ e.1.parts, LegalName part
  named : ∀ p content, (p, .file content) ∈ entries → p.parts ≠ []

def Disk.node {B : Type} (disk : Disk B) (p : Path) : Option (Node B) :=
  (disk.entries.find? fun e => e.1 = p).map Prod.snd

/-- All that is under a directory, `sorted`. -/
def Disk.children {B : Type} (disk : Disk B) (root : Path) : List (Path × Node B) :=
  (disk.entries.filter fun e => (e.1.relativeTo root).any (· ≠ [])).mergeSort fun a b =>
    a.1.parts ≤ b.1.parts

/-- The paths of the service, which it makes absolute; `dynamic` is what a provider adds. -/
structure Station where
  destination : Path
  configPaths : List Path
  dynamicConfigPaths : List Path
  credentialPaths : List Path
  dynamicCredentialPaths : List Path
  mediaRoots : List Path
  managedRoots : List (Text × Path)
  absolute : ∀ root ∈ mediaRoots ++ managedRoots.map Prod.snd, root.isAbsolute = true

inductive RecordKind where
  | config
  | credentialFile
  | media
  deriving DecidableEq

/-- A payload record with a member. -/
structure FileRecord where
  kind : RecordKind
  member : Text
  sourcePath : Path
  relativePath : Option Text
  managedRoot : Option Text
  deriving DecidableEq

inductive Record where
  | file (record : FileRecord)
  | mediaRoot (sourcePath : Path) (managedRoot : Option Text)
  | credentialExport
  deriving DecidableEq

def Record.sourcePath : Record → Option Path
  | .file record => some record.sourcePath
  | .mediaRoot sourcePath _ => some sourcePath
  | .credentialExport => none

def Record.managedRoot : Record → Option Text
  | .file record => record.managedRoot
  | .mediaRoot _ managedRoot => managedRoot
  | .credentialExport => none

inductive BackupError where
  | passphraseTooShort
  | destinationOverlaps
  | managedRootNotDirectory
  | mediaRootNotDirectory
  | notAcknowledged
  | writersRunning
  | archiveUnreadable
  | unsafeMember
  | memberMissing
  | checksumMismatch
  | unsupportedManagedRoot
  | managedRootElsewhere
  | managedTargetNotDirectory
  | targetMissing
  | targetNotAbsolute
  | unsafeRelativePath
  | stateNotJson
  | noCredentialImporter
  | credentialsRefused
  deriving DecidableEq

/-! ## Names of members -/

def payloadDir : Text := ['p', 'a', 'y', 'l', 'o', 'a', 'd']

def configDir : Text := ['c', 'o', 'n', 'f', 'i', 'g']

def credentialDir : Text :=
  ['c', 'r', 'e', 'd', 'e', 'n', 't', 'i', 'a', 'l', '-', 'f', 'i', 'l', 'e']

def mediaDir : Text := ['m', 'e', 'd', 'i', 'a']

def managedDir : Text := ['m', 'a', 'n', 'a', 'g', 'e', 'd']

/-- `payload/{kind}/{index:03d}-{name}`. -/
def fileParts (dir : Text) (index : ℕ) (name : Text) : List Text :=
  [payloadDir, dir, numbered 3 index name]

/-- `payload/media/{index:03d}/{relative}`. -/
def mediaParts (index : ℕ) (relative : List Text) : List Text :=
  [payloadDir, mediaDir, zeroPad 3 index] ++ relative

/-- `payload/managed/{index:03d}/{file_index:06d}-{name}`: the tree is flattened. -/
def managedParts (index fileIndex : ℕ) (name : Text) : List Text :=
  [payloadDir, managedDir, zeroPad 3 index, numbered 6 fileIndex name]

/-- The files a managed root leaves out. -/
def skippedName (name : Text) : Bool :=
  ['.', 'l', 'o', 'c', 'k'].isSuffixOf name || ['.', 't', 'm', 'p'].isSuffixOf name ||
    ['.', 'p', 'a', 'r', 't'].isSuffixOf name || ['.'].isPrefixOf name

/-! ## Creating a backup -/

section Create

variable {B : Type}

/-- Payload records, each with the content of its member. -/
abbrev Copied (B : Type) : Type := List (Record × Option B)

def mergePaths (fold : Path → Text) (paths : List Path) : List Path :=
  paths.foldl (fun ordered p => if fold p ∈ ordered.map fold then ordered else ordered ++ [p]) []

/-- The configuration files, or the credential files. -/
def copyFiles (disk : Disk B) (kind : RecordKind) (dir : Text) (sources : List Path) : Copied B :=
  sources.zipIdx.filterMap fun (source, index) =>
    match disk.node source with
    | some (.file content) =>
      some (.file ⟨kind, asPosix (fileParts dir index source.name), source, none, none⟩,
        some content)
    | _ => none

def copyMediaFile (source : Path) (index : ℕ) (child : Path × Node B) :
    Option (Record × Option B) :=
  match child.2, child.1.relativeTo source with
  | .file content, some relative =>
    some (.file ⟨.media, asPosix (mediaParts index relative), source, some (asPosix relative),
      none⟩, some content)
  | _, _ => none

def copyMediaRoot (disk : Disk B) (source : Path) (index : ℕ) : Except BackupError (Copied B) :=
  match disk.node source with
  | none => .ok []
  | some (.file _) => .error .mediaRootNotDirectory
  | some .dir =>
    .ok ((disk.children source).filterMap (copyMediaFile source index) ++
      [(.mediaRoot source none, none)])

def copyManagedFile (name : Text) (source : Path) (index : ℕ) (child : (Path × Node B) × ℕ) :
    Option (Record × Option B) :=
  match child.1.2, child.1.1.relativeTo source with
  | .file content, some relative =>
    if skippedName child.1.1.name then none
    else
      some (.file ⟨.media, asPosix (managedParts index child.2 child.1.1.name), source,
        some (asPosix relative), some name⟩, some content)
  | _, _ => none

def copyManagedRoot (disk : Disk B) (root : Text × Path) (index : ℕ) :
    Except BackupError (Copied B) :=
  match disk.node root.2 with
  | none => .ok []
  | some (.file _) => .error .managedRootNotDirectory
  | some .dir =>
    .ok ((disk.children root.2).zipIdx.filterMap (copyManagedFile root.1 root.2 index) ++
      [(.mediaRoot root.2 (some root.1), none)])

def copyEach {R : Type} (copy : R → ℕ → Except BackupError (Copied B)) :
    List R → ℕ → Except BackupError (Copied B)
  | [], _ => .ok []
  | root :: rest, index => do
    let here ← copy root index
    let others ← copyEach copy rest (index + 1)
    return here ++ others

def copyManagedPayload (disk : Disk B) (station : Station) : Except BackupError (Copied B) :=
  copyEach (copyManagedRoot disk) station.managedRoots 0

def Station.configs (fold : Path → Text) (station : Station) : List Path :=
  mergePaths fold (station.configPaths ++ station.dynamicConfigPaths)

def Station.credentials (fold : Path → Text) (station : Station) : List Path :=
  mergePaths fold (station.credentialPaths ++ station.dynamicCredentialPaths)

def copyPayload (fold : Path → Text) (disk : Disk B) (station : Station) :
    Except BackupError (Copied B) := do
  let media ← copyEach (copyMediaRoot disk) station.mediaRoots 0
  return copyFiles disk .config configDir (station.configs fold) ++
    copyFiles disk .credentialFile credentialDir (station.credentials fold) ++ media

/-- The members of the bundle, by the parts of their names. -/
abbrev Stage (B : Type) : Type := List Text → Option B

def staged (copied : Copied B) : List (List Text × B) :=
  copied.filterMap fun
    | (.file record, some content) => some (posixParts record.member, content)
    | _ => none

def hashMembers {S : Type} (sha256 : B → S) (writes : List (List Text × B)) (stage : Stage B) :
    List (Text × S) :=
  writes.filterMap fun w => (stage w.1).map fun content => (asPosix w.1, sha256 content)

/-- A path column of the database. -/
abbrev Column : Type := Option Path

structure AssetRow where
  assetId : Text
  filePath : Column
  thumbnailPath : Column
  deriving DecidableEq

/-- The tables with media paths, and all else. -/
structure Database (D : Type) where
  assets : List AssetRow
  watchFolderConfigs : List Column
  watchFolderFileState : List Column
  rest : D

/-- The bundle and its manifest. -/
structure Bundle (B S C D : Type) where
  stage : Stage B
  members : List (Text × S)
  payload : List Record
  credentials : Option C
  database : Database D

/-- Encryption and the zip. -/
structure Vault (B S C D A : Type) where
  lock : Text → Bundle B S C D → A
  unlock : Text → A → Option (Bundle B S C D)
  unlock_lock : ∀ passphrase bundle, unlock passphrase (lock passphrase bundle) = some bundle

def requirePassphrase (passphrase : Text) : Except BackupError Unit :=
  if passphrase.length < 12 then .error .passphraseTooShort else .ok ()

/-- The destination is a root, above one or under one. -/
def Station.overlaps (station : Station) : Bool :=
  (station.mediaRoots ++ station.managedRoots.map Prod.snd).any fun root =>
    (root.relativeTo station.destination).isSome || (station.destination.relativeTo root).isSome

variable {S C D A : Type}

def createBundle (sha256 : B → S) (fold : Path → Text) (station : Station) (disk : Disk B)
    (database : Database D) (credentials : Option C) : Except BackupError (Bundle B S C D) := do
  let managed ← copyManagedPayload disk station
  let copied ← copyPayload fold disk station
  let writes := staged managed ++ staged copied
  let stage : Stage B := writeAll writes fun _ => none
  return {
    stage := stage
    members := hashMembers sha256 writes stage
    payload := (copied ++ managed).map Prod.fst ++ credentials.toList.map fun _ => .credentialExport
    credentials := credentials
    database := database }

def createBackup (vault : Vault B S C D A) (sha256 : B → S) (fold : Path → Text)
    (station : Station) (disk : Disk B) (database : Database D) (credentials : Option C)
    (passphrase : Text) : Except BackupError A := do
  requirePassphrase passphrase
  if station.overlaps then .error .destinationOverlaps
  else do
    let bundle ← createBundle sha256 fold station disk database credentials
    return vault.lock passphrase bundle

end Create

/-! ## Members and relative paths -/

section Restore

variable {B S C D A : Type}

def safeMember (stage : Stage B) (member : Text) : Except BackupError B :=
  let parts := posixParts member
  if ['/'].isPrefixOf member || dotDot ∈ parts || parts = [] || '\\' ∈ member ||
      ':' ∈ parts.headD [] then .error .unsafeMember
  else
    match stage parts with
    | none => .error .memberMissing
    | some content => .ok content

def verifyMembers [DecidableEq S] (sha256 : B → S) (stage : Stage B) :
    List (Text × S) → Except BackupError Unit
  | [] => .ok ()
  | (member, digest) :: rest => do
    let content ← safeMember stage member
    if sha256 content = digest then verifyMembers sha256 stage rest else .error .checksumMismatch

/-- A drive in a Windows path: a letter and a colon, or a share. -/
def hasDrive (t : Text) : Bool := t[1]? = some ':' || ['/', '/'].isPrefixOf t

def safeMediaRelativePath (value : Text) : Except BackupError (List Text) :=
  let parts := posixParts value
  if value = [] || '\\' ∈ value || '\x00' ∈ value then .error .unsafeRelativePath
  else if ['/'].isPrefixOf value || hasDrive value || dotDot ∈ parts || parts = [] then
    .error .unsafeRelativePath
  else .ok parts

/-! ## The mapping -/

/-- The replacement station: its managed roots, what it has for credentials, and its disk. -/
structure Replacement (B C : Type) where
  managedRoots : Text → Option Path
  credentialDestination : Bool
  credentialImporter : Bool
  credentialValidator : C → Bool
  files : Path → Option B
  isDir : Path → Bool

/-- A mapping of recorded sources to targets. -/
abbrev Targets : Type := Path → Option Path

/-- One managed record of `_managed_restore_targets`. -/
def managedTarget (replacement : Replacement B C) (source : Path) (name : Text)
    (relativePath : Option Text) (targets : Targets) : Except BackupError Targets :=
  match replacement.managedRoots name with
  | none => .error .unsupportedManagedRoot
  | some target =>
    if (targets source).any (· ≠ target) then .error .managedRootElsewhere
    else if (replacement.files target).isSome then .error .managedTargetNotDirectory
    else
      match relativePath with
      | none => .ok (update targets source (some target))
      | some relativePath => do
        let _ ← safeMediaRelativePath relativePath
        return update targets source (some target)

def managedRestoreTargets (replacement : Replacement B C) :
    List Record → Targets → Except BackupError Targets
  | [], targets => .ok targets
  | .file record :: rest, targets =>
    match record.managedRoot with
    | none => managedRestoreTargets replacement rest targets
    | some name => do
      let targets ← managedTarget replacement record.sourcePath name record.relativePath targets
      managedRestoreTargets replacement rest targets
  | .mediaRoot source managedRoot :: rest, targets =>
    match managedRoot with
    | none => managedRestoreTargets replacement rest targets
    | some name => do
      let targets ← managedTarget replacement source name none targets
      managedRestoreTargets replacement rest targets
  | .credentialExport :: rest, targets => managedRestoreTargets replacement rest targets

/-- `_validate_payload_targets`: every source has an absolute target. -/
def validateSources (targets : Targets) : List Record → Except BackupError Unit
  | [] => .ok ()
  | record :: rest =>
    match record.sourcePath with
    | none => validateSources targets rest
    | some source =>
      match targets source with
      | none => .error .targetMissing
      | some target =>
        if target.isAbsolute then validateSources targets rest else .error .targetNotAbsolute

/-- `_validate_payload_targets`: every media record has a safe relative path. -/
def validateRelatives : List Record → Except BackupError Unit
  | [] => .ok ()
  | .file record :: rest =>
    if record.kind = .media then do
      let _ ← safeMediaRelativePath (record.relativePath.getD [])
      validateRelatives rest
    else validateRelatives rest
  | _ :: rest => validateRelatives rest

def validatePayloadTargets (records : List Record) (targets : Targets) :
    Except BackupError Unit := do
  validateSources targets records
  validateRelatives records

abbrev Mappings : Type := List (Path × Path)

/-- A `dict` keyed by the folded source: a key that is there keeps its place. -/
def setMapping (fold : Path → Text) (source target : Path) (mappings : Mappings) : Mappings :=
  if mappings.any fun m => fold m.1 = fold source then
    mappings.map fun m => if fold m.1 = fold source then (source, target) else m
  else mappings ++ [(source, target)]

def rootMappings (fold : Path → Text) (targets : Targets) :
    List Record → Mappings → Except BackupError Mappings
  | [], mappings => .ok mappings
  | .mediaRoot source _ :: rest, mappings =>
    match targets source with
    | none => .error .targetMissing
    | some target =>
      if source.isAbsolute && target.isAbsolute then
        rootMappings fold targets rest (setMapping fold source target mappings)
      else .error .targetNotAbsolute
  | _ :: rest, mappings => rootMappings fold targets rest mappings

/-- `_media_path_mappings`: without the roots that stay where they are, the longest first. -/
def mediaPathMappings (fold : Path → Text) (records : List Record) (targets : Targets) :
    Except BackupError Mappings := do
  let mappings ← rootMappings fold targets records []
  return (mappings.filter fun m => m.1 ≠ m.2).mergeSort fun a b =>
    b.1.parts.length ≤ a.1.parts.length

def mappedMediaPath (value : Column) (mappings : Mappings) : Option Path :=
  value.bind fun candidate =>
    if candidate.isAbsolute then
      mappings.findSome? fun m => (candidate.relativeTo m.1).map m.2.joinpath
    else none

/-! ## The state file and the database -/

structure StorageLocations where
  mediaLibrary : Column
  recordings : Column
  backups : Column
  deriving DecidableEq

/-- The document of a state file: its storage locations, if it has them, and all else. -/
structure StationState (J : Type) where
  storageLocations : Option StorageLocations
  rest : J

/-- `json.loads` and `json.dumps` of a state file. -/
structure StateJson (B J : Type) where
  loads : B → Option (StationState J)
  dumps : StationState J → B

def remapColumn (mappings : Mappings) (column : Column) : Column :=
  (mappedMediaPath column mappings).or column

def StorageLocations.remap (mappings : Mappings) (locations : StorageLocations) :
    StorageLocations :=
  ⟨remapColumn mappings locations.mediaLibrary, remapColumn mappings locations.recordings,
    remapColumn mappings locations.backups⟩

/-- What the state file holds after the locations are mapped; the file is left where none is. -/
def remapState {J : Type} (json : StateJson B J) (mappings : Mappings) (content : B) :
    Except BackupError B :=
  match json.loads content with
  | none => .error .stateNotJson
  | some state =>
    match state.storageLocations with
    | none => .ok content
    | some locations =>
      if locations.remap mappings = locations then .ok content
      else .ok (json.dumps { state with storageLocations := some (locations.remap mappings) })

def stationStateName : Text :=
  ['s', 't', 'a', 't', 'i', 'o', 'n', '-', 's', 't', 'a', 't', 'e', '.', 'j', 's', 'o', 'n']

def FileRecord.isState (casefold : Text → Text) (record : FileRecord) : Bool :=
  record.kind = .config && casefold record.sourcePath.name = stationStateName

def remapStates {J : Type} (json : StateJson B J) (casefold : Text → Text) (mappings : Mappings) :
    List Record → Stage B → Except BackupError (Stage B)
  | [], stage => .ok stage
  | .file record :: rest, stage =>
    if record.isState casefold then do
      let content ← safeMember stage record.member
      let content ← remapState json mappings content
      remapStates json casefold mappings rest
        (update stage (posixParts record.member) (some content))
    else remapStates json casefold mappings rest stage
  | _ :: rest, stage => remapStates json casefold mappings rest stage

def remapStationStatePayload {J : Type} (json : StateJson B J) (casefold : Text → Text)
    (mappings : Mappings) (records : List Record) (stage : Stage B) :
    Except BackupError (Stage B) :=
  if mappings = [] then .ok stage else remapStates json casefold mappings records stage

/-- `_remap_database_media_paths`. -/
def remapDatabase (mappings : Mappings) (database : Database D) : Database D :=
  { database with
    assets := database.assets.map fun row =>
      { row with
        filePath := remapColumn mappings row.filePath
        thumbnailPath := remapColumn mappings row.thumbnailPath }
    watchFolderConfigs := database.watchFolderConfigs.map (remapColumn mappings)
    watchFolderFileState := database.watchFolderFileState.map (remapColumn mappings) }

/-! ## Restoring the files -/

def preRestore : Text := ['.', 'p', 'r', 'e', '-', 'r', 'e', 's', 't', 'o', 'r', 'e', '-']

/-- The name a root that is in the way gets. -/
def rollbackPath (stamp : Text) (root : Path) : Path :=
  { root with parts := root.parts.dropLast ++ [root.name ++ preRestore ++ stamp] }

/-- `root.replace(rollback)`. -/
def moveTree (root rollback : Path) (files : Path → Option B) (p : Path) : Option B :=
  match p.relativeTo rollback with
  | some relative => files (root.joinpath relative)
  | none => if (p.relativeTo root).isSome then none else files p

/-- `_preserve_managed_restore_roots`. -/
def preserveManagedRoots (stamp : Text) (isDir : Path → Bool) (targets : Targets) :
    List Record → (Path → Option B) → Path → Option B
  | [], files => files
  | .mediaRoot source (some _) :: rest, files =>
    match targets source with
    | none => preserveManagedRoots stamp isDir targets rest files
    | some root =>
      preserveManagedRoots stamp (fun p => isDir p && p ≠ root) targets rest
        (if isDir root then moveTree root (rollbackPath stamp root) files else files)
  | _ :: rest, files => preserveManagedRoots stamp isDir targets rest files

/-- Where a record is restored, and what. -/
def restoreTarget (targets : Targets) (stage : Stage B) (record : FileRecord) :
    Except BackupError (Path × B) :=
  match targets record.sourcePath with
  | none => .error .targetMissing
  | some base => do
    let content ← safeMember stage record.member
    if record.kind = .media then do
      let relative ← safeMediaRelativePath (record.relativePath.getD [])
      return (base.joinpath relative, content)
    else return (base, content)

/-- `_restore_payload`: the files, and how many were written. -/
def restorePayload (targets : Targets) (stage : Stage B) :
    List Record → (Path → Option B) × ℕ → Except BackupError ((Path → Option B) × ℕ)
  | [], restored => .ok restored
  | .file record :: rest, restored => do
    let write ← restoreTarget targets stage record
    restorePayload targets stage rest
      (update restored.1 write.1 (some write.2), restored.2 + 1)
  | _ :: rest, restored => restorePayload targets stage rest restored

structure Restored (B D : Type) where
  files : Path → Option B
  database : Database D
  filesRestored : ℕ

/-- What `restore_backup` is asked. -/
structure RestoreRequest where
  passphrase : Text
  targetPaths : Targets
  writersStopped : Bool
  restoreLocalStationSettings : Bool
  /-- What goes into the names of roots that are moved away. -/
  stamp : Text

/-- The credentials of the bundle can be imported. -/
def checkCredentials (replacement : Replacement B C) : Option C → Except BackupError Unit
  | none => .ok ()
  | some credentials =>
    if replacement.credentialImporter then
      if replacement.credentialValidator credentials then .ok () else .error .credentialsRefused
    else .error .noCredentialImporter

variable {J : Type} [DecidableEq S]

def restoreBundle (sha256 : B → S) (json : StateJson B J) (casefold : Text → Text)
    (fold : Path → Text) (replacement : Replacement B C) (request : RestoreRequest)
    (bundle : Bundle B S C D) : Except BackupError (Restored B D) := do
  verifyMembers sha256 bundle.stage bundle.members
  let targets ← managedRestoreTargets replacement bundle.payload request.targetPaths
  validatePayloadTargets bundle.payload targets
  let mappings ← mediaPathMappings fold bundle.payload targets
  let stage ← remapStationStatePayload json casefold mappings bundle.payload bundle.stage
  checkCredentials replacement bundle.credentials
  let files := preserveManagedRoots request.stamp replacement.isDir targets bundle.payload
    replacement.files
  let restored ← restorePayload targets stage bundle.payload (files, 0)
  return ⟨restored.1, remapDatabase mappings bundle.database, restored.2⟩

def restoreBackup (vault : Vault B S C D A) (sha256 : B → S) (json : StateJson B J)
    (casefold : Text → Text) (fold : Path → Text) (replacement : Replacement B C)
    (request : RestoreRequest) (archive : A) : Except BackupError (Restored B D) := do
  requirePassphrase request.passphrase
  if replacement.credentialDestination && !request.restoreLocalStationSettings then
    .error .notAcknowledged
  else if !request.writersStopped then .error .writersRunning
  else
    match vault.unlock request.passphrase archive with
    | none => .error .archiveUnreadable
    | some bundle => restoreBundle sha256 json casefold fold replacement request bundle

end Restore

end CivicCast.Backup.Archive
