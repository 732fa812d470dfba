import CivicCast.Backup.Archive

/-!
# What a backup captures

The payload of a backup has a record for each captured file and each captured root, and no other
(`Copies.filed`, `Copies.complete`). A member name tells which file it is of (`Slot.parts_inj`), so
the flattened trees of managed roots and the nested media roots do not overwrite each other in the
bundle (`Copies.stage_eq`).
-/

namespace CivicCast.Backup.Archive

open Lib List Option Path

variable {B : Type}

/-! ## What is captured -/

section Captured

variable (fold : Path → Text) (station : Station) (disk : Disk B)

/-- The file at `relative` under `source` is captured with this content. -/
inductive Captured : Path → List Text → B → Prop
  | config {source : Path} {content : B} (h : source ∈ station.configs fold)
    (hfile : disk.node source = some (.file content)) : Captured source [] content
  | credential {source : Path} {content : B} (h : source ∈ station.credentials fold)
    (hfile : disk.node source = some (.file content)) : Captured source [] content
  | media {root : Path} {relative : List Text} {content : B} (h : root ∈ station.mediaRoots)
    (hroot : disk.node root = some .dir) (hne : relative ≠ [])
    (hfile : disk.node (root.joinpath relative) = some (.file content)) :
    Captured root relative content
  | managed {name : Text} {root : Path} {relative : List Text} {content : B}
    (h : (name, root) ∈ station.managedRoots) (hroot : disk.node root = some .dir)
    (hne : relative ≠ []) (hfile : disk.node (root.joinpath relative) = some (.file content))
    (hkept : skippedName (root.joinpath relative).name = false) : Captured root relative content

def CapturedRoot (root : Path) : Prop :=
  disk.node root = some .dir ∧
    (root ∈ station.mediaRoots ∨ ∃ name, (name, root) ∈ station.managedRoots)

def Recorded (source : Path) : Prop :=
  CapturedRoot station disk source ∨
    (source ∈ station.configs fold ∨ source ∈ station.credentials fold) ∧
      ∃ content, disk.node source = some (.file content)

end Captured

section Disk

variable {disk : Disk B} {p root : Path} {n : Node B}

lemma Disk.mem_of_node (h : disk.node p = some n) : (p, n) ∈ disk.entries := by
  obtain ⟨e, he, rfl⟩ := map_eq_some_iff.mp h
  have hp : e.1 = p := by simpa using find?_some he
  rw [← hp]
  exact mem_of_find?_eq_some he

lemma Disk.node_of_mem (h : (p, n) ∈ disk.entries) : disk.node p = some n := by
  -- the paths of the entries are distinct, so the first entry with this path is this one
  have hsome : (disk.entries.find? fun e => e.1 = p).isSome = true := by
    rw [find?_isSome]
    exact ⟨(p, n), h, by simp⟩
  obtain ⟨e, he⟩ := isSome_iff_exists.mp hsome
  have hp : e.1 = p := by simpa using find?_some he
  have heq : e = (p, n) := inj_on_of_nodup_map disk.nodup (mem_of_find?_eq_some he) h hp
  unfold Disk.node
  rw [he, heq]
  rfl

lemma Disk.legal_of_node (h : disk.node p = some n) : ∀ part ∈ p.parts, LegalName part :=
  disk.legal (p, n) (disk.mem_of_node h)

lemma Disk.name_legal {content : B} (h : disk.node p = some (.file content)) :
    LegalName p.name := by
  have hne : p.parts ≠ [] := disk.named p content (disk.mem_of_node h)
  have hname : p.name = p.parts.getLast hne := by
    unfold name
    rw [getLast?_eq_some_getLast hne]
    rfl
  rw [hname]
  exact disk.legal_of_node h _ (getLast_mem hne)

lemma Disk.mem_children {e : Path × Node B} :
    e ∈ disk.children root ↔
      disk.node e.1 = some e.2 ∧ ∃ relative, relative ≠ [] ∧ e.1 = root.joinpath relative := by
  unfold Disk.children
  rw [mem_mergeSort, mem_filter]
  constructor
  · rintro ⟨hmem, hunder⟩
    obtain ⟨relative, hrelative, hne⟩ : ∃ relative, e.1.relativeTo root = some relative ∧
        relative ≠ [] := by simpa [Option.any_eq_true] using hunder
    exact ⟨disk.node_of_mem hmem, relative, hne, relativeTo_eq_some.mp hrelative⟩
  · rintro ⟨hnode, relative, hne, heq⟩
    refine ⟨disk.mem_of_node hnode, ?_⟩
    rw [relativeTo_eq_some.mpr heq]
    simpa using hne

end Disk

/-! ## The member of a file -/

/-- What the member name of a file says of where it came from. -/
inductive Slot where
  | config (index : ℕ)
  | credential (index : ℕ)
  | media (index : ℕ) (relative : List Text)
  | managed (index fileIndex : ℕ)
  deriving DecidableEq

namespace Slot

/-- The parts of the member name, for a file of this name. -/
def parts (name : Text) : Slot → List Text
  | config index => fileParts configDir index name
  | credential index => fileParts credentialDir index name
  | media index relative => mediaParts index relative
  | managed index fileIndex => managedParts index fileIndex name

/-- The second part of a member name tells the four kinds apart. -/
def dir : Slot → Text
  | config _ => configDir
  | credential _ => credentialDir
  | media _ _ => mediaDir
  | managed _ _ => managedDir

lemma parts_eq (slot : Slot) (name : Text) :
    ∃ rest, rest ≠ [] ∧ slot.parts name = payloadDir :: slot.dir :: rest := by
  cases slot with
  | config index | credential index | media index relative | managed index fileIndex =>
    exact ⟨_, by simp, rfl⟩

lemma parts_ne_nil (slot : Slot) (name : Text) : slot.parts name ≠ [] := by
  obtain ⟨rest, -, heq⟩ := slot.parts_eq name
  rw [heq]
  simp

lemma parts_inj {slot slot' : Slot} {name name' : Text}
    (h : slot.parts name = slot'.parts name') : slot = slot' := by
  have hdir : slot.dir = slot'.dir := by
    obtain ⟨_, -, heq⟩ := slot.parts_eq name
    obtain ⟨_, -, heq'⟩ := slot'.parts_eq name'
    rw [heq, heq'] at h
    exact (cons.inj (cons.inj h).2).1
  -- slots of other kinds have other directories
  cases slot with
  | config index =>
    cases slot' with
    | config index' =>
      have hnumber : numbered 3 index name = numbered 3 index' name' := by
        simpa [parts, fileParts] using h
      rw [numbered_inj hnumber]
    | _ => simp [dir, configDir, credentialDir, mediaDir, managedDir] at hdir
  | credential index =>
    cases slot' with
    | credential index' =>
      have hnumber : numbered 3 index name = numbered 3 index' name' := by
        simpa [parts, fileParts] using h
      rw [numbered_inj hnumber]
    | _ => simp [dir, configDir, credentialDir, mediaDir, managedDir] at hdir
  | media index relative =>
    cases slot' with
    | media index' relative' =>
      obtain ⟨hindex, hrelative⟩ : zeroPad 3 index = zeroPad 3 index' ∧ relative = relative' := by
        simpa [parts, mediaParts] using h
      rw [zeroPad_inj hindex, hrelative]
    | _ => simp [dir, configDir, credentialDir, mediaDir, managedDir] at hdir
  | managed index fileIndex =>
    cases slot' with
    | managed index' fileIndex' =>
      obtain ⟨hindex, hnumber⟩ : zeroPad 3 index = zeroPad 3 index' ∧
          numbered 6 fileIndex name = numbered 6 fileIndex' name' := by
        simpa [parts, managedParts] using h
      rw [zeroPad_inj hindex, numbered_inj hnumber]
    | _ => simp [dir, configDir, credentialDir, mediaDir, managedDir] at hdir

end Slot

section Filed

variable (fold : Path → Text) (station : Station) (disk : Disk B)

def Slot.origin : Slot → Option Path
  | .config index => (station.configs fold)[index]?
  | .credential index => (station.credentials fold)[index]?
  | .media index relative => station.mediaRoots[index]?.map fun root => root.joinpath relative
  | .managed index fileIndex =>
    station.managedRoots[index]?.bind fun root =>
      (disk.children root.2)[fileIndex]?.map Prod.fst

/-- How a captured file is recorded. -/
structure Filed (record : FileRecord) (relative : List Text) (content : B) (slot : Slot) :
    Prop where
  captured : Captured fold station disk record.sourcePath relative content
  origin : slot.origin fold station disk = some (record.sourcePath.joinpath relative)
  member : record.member = asPosix (slot.parts (record.sourcePath.joinpath relative).name)
  kind : (record.kind = .media ∧ relative ≠ [] ∧ record.relativePath = some (asPosix relative)) ∨
    (record.kind ≠ .media ∧ relative = [])
  managed : ∀ name ∈ record.managedRoot, (name, record.sourcePath) ∈ station.managedRoots ∧
    disk.node record.sourcePath = some .dir ∧ record.kind = .media
  config : record.kind = .config ↔ ∃ index, slot = .config index

end Filed

/-! ## What each step copies -/

section Copies

variable {disk : Disk B} {item : Record × Option B}

variable {R : Type} {copy : R → ℕ → Except BackupError (Copied B)} {roots : List R} {index : ℕ}
  {start : ℕ} {copied here : Copied B}

lemma mem_copyFiles {kind : RecordKind} {dir : Text} {sources : List Path} :
    item ∈ copyFiles disk kind dir sources ↔
      ∃ index source content, sources[index]? = some source ∧
        disk.node source = some (.file content) ∧
        item = (.file ⟨kind, asPosix (fileParts dir index source.name), source, none, none⟩,
          some content) := by
  unfold copyFiles
  rw [mem_filterMap]
  constructor
  · rintro ⟨⟨source, index⟩, hmem, hitem⟩
    have hsource : sources[index]? = some source := mem_zipIdx_iff_getElem?.mp hmem
    dsimp only at hitem
    split at hitem
    · rename_i content hfile
      exact ⟨index, source, content, hsource, hfile, (some.inj hitem).symm⟩
    · cases hitem
  · rintro ⟨index, source, content, hsource, hfile, rfl⟩
    refine ⟨(source, index), mem_zipIdx_iff_getElem?.mpr hsource, ?_⟩
    simp [hfile]

lemma mem_copyEach (h : copyEach copy roots start = .ok copied) :
    item ∈ copied ↔ ∃ index root here, roots[index]? = some root ∧
      copy root (start + index) = .ok here ∧ item ∈ here := by
  induction roots generalizing start copied with
  | nil =>
    cases h
    simp
  | cons root rest ih =>
    obtain ⟨here, hhere, h⟩ := bind_ok h
    obtain ⟨others, hothers, h⟩ := bind_ok h
    cases h
    rw [mem_append, ih hothers]
    constructor
    · -- the first root has the index `start`, the others one more each
      rintro (hmem | ⟨index, root', here', hroot', hcopy, hmem⟩)
      · exact ⟨0, root, here, rfl, hhere, hmem⟩
      · refine ⟨index + 1, root', here', hroot', ?_, hmem⟩
        rw [← hcopy]
        congr 1
        omega
    · rintro ⟨index, root', here', hroot', hcopy, hmem⟩
      cases index with
      | zero =>
        obtain rfl : root = root' := some.inj hroot'
        obtain rfl : here = here' := Except.ok.inj (hhere.symm.trans hcopy)
        exact .inl hmem
      | succ index =>
        refine .inr ⟨index, root', here', hroot', ?_, hmem⟩
        rw [← hcopy]
        congr 1
        omega

lemma copyEach_ok (h : copyEach copy roots start = .ok copied) {root : R}
    (hroot : roots[index]? = some root) : ∃ here, copy root (start + index) = .ok here := by
  induction roots generalizing start copied index with
  | nil => cases hroot
  | cons first rest ih =>
    obtain ⟨here, hhere, h⟩ := bind_ok h
    obtain ⟨others, hothers, -⟩ := bind_ok h
    cases index with
    | zero =>
      obtain rfl : first = root := some.inj hroot
      exact ⟨here, hhere⟩
    | succ index =>
      obtain ⟨there, hthere⟩ := ih hothers hroot
      refine ⟨there, ?_⟩
      rw [← hthere]
      congr 1
      omega

lemma copyEach_returns (start : ℕ)
    (h : ∀ root ∈ roots, ∀ index, ∃ here, copy root index = .ok here) :
    ∃ copied, copyEach copy roots start = .ok copied := by
  induction roots generalizing start with
  | nil => exact ⟨[], rfl⟩
  | cons root rest ih =>
    obtain ⟨hroot, hrest⟩ := forall_mem_cons.mp h
    obtain ⟨here, hhere⟩ := hroot start
    obtain ⟨others, hothers⟩ := ih (start + 1) hrest
    refine ⟨here ++ others, ?_⟩
    rw [copyEach, hhere]
    rw [hothers]
    rfl

lemma mem_copyMediaRoot {source : Path} (h : copyMediaRoot disk source index = .ok here) :
    item ∈ here ↔ disk.node source = some .dir ∧
      (item = (.mediaRoot source none, none) ∨ ∃ relative content, relative ≠ [] ∧
        disk.node (source.joinpath relative) = some (.file content) ∧
        item = (.file ⟨.media, asPosix (mediaParts index relative), source,
          some (asPosix relative), none⟩, some content)) := by
  unfold copyMediaRoot at h
  split at h
  · rename_i hnone
    cases h
    simp [hnone]
  · cases h
  · rename_i hdir
    cases h
    rw [mem_append, mem_singleton, mem_filterMap, or_comm, and_iff_right hdir]
    refine or_congr_right ⟨?_, ?_⟩
    · -- only the files below the root are copied
      rintro ⟨⟨p, n⟩, hchild, hitem⟩
      obtain ⟨hnode, relative, hne, hp⟩ := disk.mem_children.mp hchild
      obtain rfl : p = source.joinpath relative := hp
      unfold copyMediaFile at hitem
      rw [relativeTo_eq_some.mpr rfl] at hitem
      split at hitem
      · rename_i content _ hcontent hsome
        obtain rfl := some.inj hsome
        obtain rfl : n = .file content := hcontent
        exact ⟨relative, content, hne, hnode, (some.inj hitem).symm⟩
      · cases hitem
    · rintro ⟨relative, content, hne, hfile, rfl⟩
      refine ⟨(source.joinpath relative, .file content), ?_, ?_⟩
      · exact disk.mem_children.mpr ⟨hfile, relative, hne, rfl⟩
      · unfold copyMediaFile
        rw [relativeTo_eq_some.mpr rfl]

lemma mem_copyManagedRoot {root : Text × Path} (h : copyManagedRoot disk root index = .ok here) :
    item ∈ here ↔ disk.node root.2 = some .dir ∧
      (item = (.mediaRoot root.2 (some root.1), none) ∨ ∃ fileIndex relative content,
        relative ≠ [] ∧ disk.node (root.2.joinpath relative) = some (.file content) ∧
        (disk.children root.2)[fileIndex]? = some (root.2.joinpath relative, .file content) ∧
        skippedName (root.2.joinpath relative).name = false ∧
        item = (.file ⟨.media,
          asPosix (managedParts index fileIndex (root.2.joinpath relative).name), root.2,
          some (asPosix relative), some root.1⟩, some content)) := by
  unfold copyManagedRoot at h
  split at h
  · rename_i hnone
    cases h
    simp [hnone]
  · cases h
  · rename_i hdir
    cases h
    rw [mem_append, mem_singleton, mem_filterMap, or_comm, and_iff_right hdir]
    refine or_congr_right ⟨?_, ?_⟩
    · -- a file goes by its place in the listing, and some names are skipped
      rintro ⟨⟨⟨p, n⟩, fileIndex⟩, hmem, hitem⟩
      have hchild := mem_zipIdx_iff_getElem?.mp hmem
      obtain ⟨hnode, relative, hne, hp⟩ := disk.mem_children.mp (mem_of_getElem? hchild)
      obtain rfl : p = root.2.joinpath relative := hp
      unfold copyManagedFile at hitem
      rw [relativeTo_eq_some.mpr rfl] at hitem
      split at hitem
      · rename_i content _ hcontent hsome
        obtain rfl := some.inj hsome
        obtain rfl : n = .file content := hcontent
        split at hitem
        · cases hitem
        · rename_i hkept
          exact ⟨fileIndex, relative, content, hne, hnode, hchild, by simpa using hkept,
            (some.inj hitem).symm⟩
      · cases hitem
    · rintro ⟨fileIndex, relative, content, hne, hfile, hchild, hkept, rfl⟩
      refine ⟨((root.2.joinpath relative, .file content), fileIndex), ?_, ?_⟩
      · exact mem_zipIdx_iff_getElem?.mpr hchild
      · unfold copyManagedFile
        rw [relativeTo_eq_some.mpr rfl]
        simp [hkept]

end Copies

/-! ## The payload records what is captured -/

section Payload

variable {fold : Path → Text} {station : Station} {disk : Disk B} {copied managed : Copied B}
  {record : FileRecord} {relative : List Text} {content : B}

/-- The two parts of a payload. -/
structure Copies (fold : Path → Text) (station : Station) (disk : Disk B)
    (copied managed : Copied B) : Prop where
  copied : copyPayload fold disk station = .ok copied
  managed : copyManagedPayload disk station = .ok managed

namespace Copies

variable (h : Copies fold station disk copied managed) {root source : Path} {c : Option B}
  {name : Text}

include h

lemma media : ∃ media, copyEach (copyMediaRoot disk) station.mediaRoots 0 = .ok media ∧
    copied = copyFiles disk .config configDir (station.configs fold) ++
      copyFiles disk .credentialFile credentialDir (station.credentials fold) ++ media := by
  obtain ⟨media, hmedia, hcopied⟩ := bind_ok h.copied
  exact ⟨media, hmedia, (Except.ok.inj hcopied).symm⟩

lemma filed (hmem : (.file record, c) ∈ copied ++ managed) :
    ∃ relative content slot, c = some content ∧
      Filed fold station disk record relative content slot := by
  obtain ⟨media, hmedia, rfl⟩ := h.media
  rw [mem_append, mem_append, mem_append] at hmem
  -- configs, credentials, media roots, managed roots
  rcases hmem with ((hmem | hmem) | hmem) | hmem
  · obtain ⟨index, source, content, hsource, hfile, heq⟩ := mem_copyFiles.mp hmem
    cases heq
    have horigin : (Slot.config index).origin fold station disk = some (source.joinpath []) := by
      rw [joinpath_nil]
      exact hsource
    refine ⟨[], content, .config index, rfl, .config (mem_of_getElem? hsource) hfile, horigin,
      ?_, .inr ⟨by simp, rfl⟩, by simp, by simp⟩
    rw [joinpath_nil]
    rfl
  · obtain ⟨index, source, content, hsource, hfile, heq⟩ := mem_copyFiles.mp hmem
    cases heq
    have horigin : (Slot.credential index).origin fold station disk =
        some (source.joinpath []) := by
      rw [joinpath_nil]
      exact hsource
    refine ⟨[], content, .credential index, rfl, .credential (mem_of_getElem? hsource) hfile,
      horigin, ?_, .inr ⟨by simp, rfl⟩, by simp, by simp⟩
    rw [joinpath_nil]
    rfl
  · obtain ⟨index, source, here, hsource, hhere, hmem⟩ := (mem_copyEach hmedia).mp hmem
    obtain ⟨hdir, hroot | ⟨relative, content, hne, hfile, heq⟩⟩ := (mem_copyMediaRoot hhere).mp hmem
    · cases hroot
    · rw [Nat.zero_add] at heq
      cases heq
      have horigin : (Slot.media index relative).origin fold station disk =
          some (source.joinpath relative) := by simp [Slot.origin, hsource]
      exact ⟨relative, content, .media index relative, rfl,
        .media (mem_of_getElem? hsource) hdir hne hfile, horigin, rfl,
        .inl ⟨rfl, hne, rfl⟩, by simp, by simp⟩
  · obtain ⟨index, root, here, hroot, hhere, hmem⟩ := (mem_copyEach h.managed).mp hmem
    obtain ⟨hdir, hrecord | hfile⟩ := (mem_copyManagedRoot hhere).mp hmem
    · cases hrecord
    · obtain ⟨fileIndex, relative, content, hne, hfile, hchild, hkept, heq⟩ := hfile
      rw [Nat.zero_add] at heq
      cases heq
      have hmanaged : (root.1, root.2) ∈ station.managedRoots := mem_of_getElem? hroot
      have horigin : (Slot.managed index fileIndex).origin fold station disk =
          some (root.2.joinpath relative) := by simp [Slot.origin, hroot, hchild]
      refine ⟨relative, content, .managed index fileIndex, rfl,
        .managed hmanaged hdir hne hfile hkept, horigin, rfl, .inl ⟨rfl, hne, rfl⟩, ?_,
        by simp⟩
      intro name hname
      cases hname
      exact ⟨hmanaged, hdir, rfl⟩

lemma root_captured {name? : Option Text}
    (hmem : (.mediaRoot source name?, c) ∈ copied ++ managed) :
    CapturedRoot station disk source ∧
      ∀ name ∈ name?, (name, source) ∈ station.managedRoots := by
  obtain ⟨media, hmedia, rfl⟩ := h.media
  rw [mem_append, mem_append, mem_append] at hmem
  rcases hmem with ((hmem | hmem) | hmem) | hmem
  · obtain ⟨_, _, _, -, -, heq⟩ := mem_copyFiles.mp hmem
    cases heq
  · obtain ⟨_, _, _, -, -, heq⟩ := mem_copyFiles.mp hmem
    cases heq
  · obtain ⟨index, source, here, hsource, hhere, hmem⟩ := (mem_copyEach hmedia).mp hmem
    obtain ⟨hdir, hroot | ⟨_, _, -, -, heq⟩⟩ := (mem_copyMediaRoot hhere).mp hmem
    · cases hroot
      exact ⟨⟨hdir, .inl (mem_of_getElem? hsource)⟩, by simp⟩
    · cases heq
  · obtain ⟨index, root, here, hroot, hhere, hmem⟩ := (mem_copyEach h.managed).mp hmem
    obtain ⟨hdir, hrecord | ⟨_, _, _, -, -, -, -, heq⟩⟩ := (mem_copyManagedRoot hhere).mp hmem
    · cases hrecord
      have hmanaged : (root.1, root.2) ∈ station.managedRoots := mem_of_getElem? hroot
      refine ⟨⟨hdir, .inr ⟨root.1, hmanaged⟩⟩, ?_⟩
      intro name hname
      cases hname
      exact hmanaged
    · cases heq

lemma complete (hcaptured : Captured fold station disk source relative content) :
    ∃ record, (Record.file record, some content) ∈ copied ++ managed ∧ record.sourcePath = source ∧
      ((record.kind = .media ∧ relative ≠ [] ∧ record.relativePath = some (asPosix relative)) ∨
        (record.kind ≠ .media ∧ relative = [])) := by
  obtain ⟨media, hmedia, rfl⟩ := h.media
  cases hcaptured with
  | config hsource hfile =>
    obtain ⟨index, hindex⟩ := getElem?_of_mem hsource
    have hmem : (_, some content) ∈ copyFiles disk .config configDir (station.configs fold) :=
      mem_copyFiles.mpr ⟨index, source, content, hindex, hfile, rfl⟩
    exact ⟨_, mem_append_left _ (mem_append_left _ (mem_append_left _ hmem)), rfl,
      .inr ⟨by simp, rfl⟩⟩
  | credential hsource hfile =>
    obtain ⟨index, hindex⟩ := getElem?_of_mem hsource
    have hmem : (_, some content) ∈
        copyFiles disk .credentialFile credentialDir (station.credentials fold) :=
      mem_copyFiles.mpr ⟨index, source, content, hindex, hfile, rfl⟩
    exact ⟨_, mem_append_left _ (mem_append_left _ (mem_append_right _ hmem)), rfl,
      .inr ⟨by simp, rfl⟩⟩
  | media hroot hdir hne hfile =>
    -- the copy of its root has the file
    obtain ⟨index, hindex⟩ := getElem?_of_mem hroot
    obtain ⟨here, hhere⟩ := copyEach_ok hmedia hindex
    have hcopied := (mem_copyMediaRoot hhere).mpr ⟨hdir, .inr ⟨relative, content, hne, hfile, rfl⟩⟩
    have hmem := (mem_copyEach hmedia).mpr ⟨index, source, here, hindex, hhere, hcopied⟩
    exact ⟨_, mem_append_left _ (mem_append_right _ hmem), rfl, .inl ⟨rfl, hne, rfl⟩⟩
  | managed hroot hdir hne hfile hkept =>
    -- the name in the archive takes the place in the listing
    rename_i name
    obtain ⟨index, hindex⟩ := getElem?_of_mem hroot
    obtain ⟨here, hhere⟩ := copyEach_ok h.managed hindex
    have hchild : (source.joinpath relative, Node.file content) ∈ disk.children source :=
      disk.mem_children.mpr ⟨hfile, relative, hne, rfl⟩
    obtain ⟨fileIndex, hfileIndex⟩ := getElem?_of_mem hchild
    have hcopied := (mem_copyManagedRoot hhere).mpr
      ⟨hdir, .inr ⟨fileIndex, relative, content, hne, hfile, hfileIndex, hkept, rfl⟩⟩
    have hmem := (mem_copyEach h.managed).mpr ⟨index, (name, source), here, hindex, hhere, hcopied⟩
    exact ⟨_, mem_append_right _ hmem, rfl, .inl ⟨rfl, hne, rfl⟩⟩

lemma complete_mediaRoot (hmem : root ∈ station.mediaRoots) (hdir : disk.node root = some .dir) :
    (Record.mediaRoot root none, none) ∈ copied ++ managed := by
  obtain ⟨media, hmedia, rfl⟩ := h.media
  obtain ⟨index, hindex⟩ := getElem?_of_mem hmem
  obtain ⟨here, hhere⟩ := copyEach_ok hmedia hindex
  have hcopied := (mem_copyMediaRoot hhere).mpr ⟨hdir, .inl rfl⟩
  have hmem := (mem_copyEach hmedia).mpr ⟨index, root, here, hindex, hhere, hcopied⟩
  exact mem_append_left _ (mem_append_right _ hmem)

lemma complete_managedRoot
    (hmem : (name, root) ∈ station.managedRoots) (hdir : disk.node root = some .dir) :
    (Record.mediaRoot root (some name), none) ∈ copied ++ managed := by
  obtain ⟨index, hindex⟩ := getElem?_of_mem hmem
  obtain ⟨here, hhere⟩ := copyEach_ok h.managed hindex
  have hcopied := (mem_copyManagedRoot hhere).mpr ⟨hdir, .inl rfl⟩
  exact mem_append_right _
    ((mem_copyEach h.managed).mpr ⟨index, (name, root), here, hindex, hhere, hcopied⟩)

lemma complete_root (hroot : CapturedRoot station disk root) :
    ∃ name?, (Record.mediaRoot root name?, none) ∈ copied ++ managed := by
  obtain ⟨hdir, hmem | ⟨name, hmem⟩⟩ := hroot
  · exact ⟨none, h.complete_mediaRoot hmem hdir⟩
  · exact ⟨some name, h.complete_managedRoot hmem hdir⟩

lemma managedRoot_not_file
    (hmem : (name, root) ∈ station.managedRoots) : disk.node root ≠ some (.file content) := by
  intro hfile
  obtain ⟨index, hindex⟩ := getElem?_of_mem hmem
  obtain ⟨here, hhere⟩ := copyEach_ok h.managed hindex
  simp [copyManagedRoot, hfile] at hhere

end Copies

end Payload

/-! ## Texts that are safe -/

section Texts

variable {parts : List Text} (hne : parts ≠ []) (hlegal : ∀ part ∈ parts, LegalName part)

include hlegal

lemma not_mem_asPosix {c : Char} (hc : c ∈ forbiddenInName) (hslash : c ≠ '/') :
    c ∉ asPosix parts := by
  intro hmem
  rcases mem_asPosix hmem with heq | ⟨part, hpart, hmem⟩
  · exact hslash heq
  · exact (hlegal part hpart).not_mem hc hmem

lemma control_not_mem_asPosix {c : Char} (hc : c.toNat < 32) : c ∉ asPosix parts := by
  intro hmem
  rcases mem_asPosix hmem with rfl | ⟨part, hpart, hmem⟩
  · exact absurd hc (by decide)
  · have hprintable : 32 ≤ c.toNat := ((hlegal part hpart).chars c hmem).2
    omega

lemma dotDot_not_mem : dotDot ∉ parts :=
  fun hmem => (hlegal dotDot hmem).ne_dotDot rfl

include hne

/-- The text begins with the first name. -/
lemma asPosix_head : ∃ c rest, asPosix parts = c :: rest ∧ c ≠ '/' := by
  cases parts with
  | nil => exact (hne rfl).elim
  | cons part parts =>
    obtain ⟨rest, hrest⟩ := asPosix_cons part parts
    have hpart : LegalName part := hlegal part mem_cons_self
    cases part with
    | nil => exact (hpart.nonempty rfl).elim
    | cons c chars =>
      refine ⟨c, chars ++ rest, hrest, ?_⟩
      rintro rfl
      exact hpart.not_mem (by decide) mem_cons_self

lemma asPosix_not_absolute : ['/'].isPrefixOf (asPosix parts) = false := by
  obtain ⟨c, rest, heq, hc⟩ := asPosix_head hne hlegal
  rw [heq]
  simpa [isPrefixOf] using Ne.symm hc

lemma asPosix_no_drive : hasDrive (asPosix parts) = false := by
  obtain ⟨c, rest, heq, hc⟩ := asPosix_head hne hlegal
  have hcolon : ':' ∉ asPosix parts := not_mem_asPosix hlegal (by decide) (by decide)
  have hsecond : rest[0]? ≠ some ':' := by
    intro hmem
    rw [heq] at hcolon
    exact hcolon (mem_cons_of_mem _ (mem_of_getElem? hmem))
  unfold hasDrive
  rw [heq]
  simpa [isPrefixOf, Ne.symm hc] using hsecond

lemma safeMember_asPosix {stage : Stage B} {content : B} (h : stage parts = some content) :
    safeMember stage (asPosix parts) = .ok content := by
  have hcolon : ':' ∉ parts.head?.getD [] := by
    cases parts with
    | nil => exact (hne rfl).elim
    | cons part parts => exact (hlegal part mem_cons_self).not_mem (by decide)
  have hbackslash : '\\' ∉ asPosix parts := not_mem_asPosix hlegal (by decide) (by decide)
  have hdots : dotDot ∉ parts := dotDot_not_mem hlegal
  unfold safeMember
  rw [posixParts_asPosix hne hlegal, asPosix_not_absolute hne hlegal]
  simp [hcolon, hbackslash, hdots, hne, h]

lemma safeMediaRelativePath_asPosix : safeMediaRelativePath (asPosix parts) = .ok parts := by
  have hbackslash : '\\' ∉ asPosix parts := not_mem_asPosix hlegal (by decide) (by decide)
  have hnull : '\x00' ∉ asPosix parts := control_not_mem_asPosix hlegal (by decide)
  have hdots : dotDot ∉ parts := dotDot_not_mem hlegal
  have hnonempty : asPosix parts ≠ [] := by
    obtain ⟨c, rest, heq, -⟩ := asPosix_head hne hlegal
    rw [heq]
    simp
  unfold safeMediaRelativePath
  rw [posixParts_asPosix hne hlegal, asPosix_not_absolute hne hlegal, asPosix_no_drive hne hlegal]
  simp [hbackslash, hnull, hdots, hne, hnonempty]

end Texts

/-! ## The stage -/

section Stage

variable {fold : Path → Text} {station : Station} {disk : Disk B} {copied managed : Copied B}
  {record record' : FileRecord} {relative relative' : List Text} {content content' : B}
  {slot slot' : Slot} {source : Path}

lemma Captured.node (h : Captured fold station disk source relative content) :
    disk.node (source.joinpath relative) = some (.file content) := by
  cases h with
  | config _ hfile | credential _ hfile => rwa [joinpath_nil]
  | media _ _ _ hfile | managed _ _ _ hfile => exact hfile

lemma Captured.legal (h : Captured fold station disk source relative content) :
    ∀ part ∈ relative, LegalName part :=
  fun part hpart => disk.legal_of_node h.node part (mem_append_right _ hpart)

lemma Captured.recorded (h : Captured fold station disk source relative content) :
    Recorded fold station disk source := by
  cases h with
  | config hsource hfile => exact .inr ⟨.inl hsource, _, hfile⟩
  | credential hsource hfile => exact .inr ⟨.inr hsource, _, hfile⟩
  | media hroot hdir _ _ => exact .inl ⟨hdir, .inl hroot⟩
  | managed hroot hdir _ _ _ => exact .inl ⟨hdir, .inr ⟨_, hroot⟩⟩

lemma dirs_legal : LegalName payloadDir ∧ LegalName configDir ∧ LegalName credentialDir ∧
    LegalName mediaDir ∧ LegalName managedDir := by
  exact ⟨by decide, by decide, by decide, by decide, by decide⟩

lemma Slot.parts_legal {name : Text} (hname : LegalName name)
    (hrelative : ∀ index relative, slot = .media index relative →
      ∀ part ∈ relative, LegalName part) :
    ∀ part ∈ slot.parts name, LegalName part := by
  obtain ⟨hpayload, hconfig, hcredential, hmedia, hmanaged⟩ := dirs_legal
  cases slot with
  | config index => simpa [Slot.parts, fileParts] using ⟨hpayload, hconfig, numbered_legal hname⟩
  | credential index =>
    simpa [Slot.parts, fileParts] using ⟨hpayload, hcredential, numbered_legal hname⟩
  | media index relative =>
    simpa [Slot.parts, mediaParts] using
      ⟨hpayload, hmedia, zeroPad_legal (by decide), hrelative index relative rfl⟩
  | managed index fileIndex =>
    simpa [Slot.parts, managedParts] using
      ⟨hpayload, hmanaged, zeroPad_legal (by decide), numbered_legal hname⟩

namespace Filed

variable (h : Filed fold station disk record relative content slot)

include h

lemma parts_legal :
    ∀ part ∈ slot.parts (record.sourcePath.joinpath relative).name, LegalName part := by
  refine Slot.parts_legal (disk.name_legal h.captured.node) ?_
  -- the relative path in a member name is a tail of the path of the file
  rintro index tail rfl part hpart
  obtain ⟨root, -, hroot⟩ := map_eq_some_iff.mp h.origin
  have hnode : disk.node (root.joinpath tail) = some (.file content) := hroot ▸ h.captured.node
  exact disk.legal_of_node hnode part (mem_append_right _ hpart)

lemma posixParts_member :
    posixParts record.member = slot.parts (record.sourcePath.joinpath relative).name := by
  rw [h.member]
  exact posixParts_asPosix (slot.parts_ne_nil _) h.parts_legal

lemma eq_of_member (h' : Filed fold station disk record' relative' content' slot')
    (heq : posixParts record.member = posixParts record'.member) :
    slot = slot' ∧ content = content' := by
  rw [h.posixParts_member, h'.posixParts_member] at heq
  obtain rfl : slot = slot' := Slot.parts_inj heq
  have hpath : record.sourcePath.joinpath relative = record'.sourcePath.joinpath relative' :=
    some.inj (h.origin.symm.trans h'.origin)
  have hnode : some (Node.file content) = some (Node.file content') := by
    rw [← h.captured.node, hpath, h'.captured.node]
  cases hnode
  exact ⟨rfl, rfl⟩

lemma relative_eq (hlegal : ∀ part ∈ relative', LegalName part)
    (hkind : (record.kind = .media ∧ relative' ≠ [] ∧
      record.relativePath = some (asPosix relative')) ∨ (record.kind ≠ .media ∧ relative' = [])) :
    relative = relative' := by
  rcases h.kind with ⟨hmedia, hne, hrelative⟩ | ⟨hother, hnil⟩
  · rcases hkind with ⟨-, hne', hrelative'⟩ | ⟨hother, -⟩
    · have htext : asPosix relative = asPosix relative' :=
        some.inj (hrelative.symm.trans hrelative')
      rw [← posixParts_asPosix hne h.captured.legal, htext, posixParts_asPosix hne' hlegal]
    · exact (hother hmedia).elim
  · rcases hkind with ⟨hmedia, -⟩ | ⟨-, hnil'⟩
    · exact (hother hmedia).elim
    · rw [hnil, hnil']

lemma safeMember_eq {stage : Stage B} {c : B} (hstage : stage (posixParts record.member) = some c) :
    safeMember stage record.member = .ok c := by
  rw [h.posixParts_member] at hstage
  rw [h.member]
  exact safeMember_asPosix (slot.parts_ne_nil _) h.parts_legal hstage

end Filed

lemma mem_staged {w : List Text × B} :
    w ∈ staged copied ↔ ∃ record, (Record.file record, some w.2) ∈ copied ∧
      w.1 = posixParts record.member := by
  unfold staged
  rw [mem_filterMap]
  constructor
  · rintro ⟨⟨record, c⟩, hmem, hw⟩
    cases record with
    | file record =>
      cases c with
      | none => cases hw
      | some content =>
        cases hw
        exact ⟨record, hmem, rfl⟩
    | mediaRoot _ _ | credentialExport => cases hw
  · obtain ⟨key, content⟩ := w
    rintro ⟨record, hmem, heq⟩
    obtain rfl : key = posixParts record.member := heq
    exact ⟨_, hmem, rfl⟩

lemma Copies.stage_eq (h : Copies fold station disk copied managed)
    (hmem : (.file record, some content) ∈ copied ++ managed) :
    writeAll (staged managed ++ staged copied) (fun _ => none) (posixParts record.member) =
      some content := by
  have hwrite : ∀ record' c, (Record.file record', some c) ∈ copied ++ managed ↔
      (Record.file record', some c) ∈ managed ∨ (Record.file record', some c) ∈ copied := by
    intro record' c
    rw [mem_append, or_comm]
  have hstaged : ∃ w ∈ staged managed ++ staged copied, w.1 = posixParts record.member := by
    refine ⟨(posixParts record.member, content), ?_, rfl⟩
    rw [mem_append]
    rcases (hwrite record content).mp hmem with hmem | hmem
    · exact .inl (mem_staged.mpr ⟨record, hmem, rfl⟩)
    · exact .inr (mem_staged.mpr ⟨record, hmem, rfl⟩)
  -- what stands under the name was written for a file of that name
  obtain ⟨w, hw, hkey, hstage⟩ := writeAll_of_mem hstaged (fun _ => none)
  have hother : ∃ record', (Record.file record', some w.2) ∈ copied ++ managed ∧
      w.1 = posixParts record'.member := by
    rcases mem_append.mp hw with hw | hw
    · obtain ⟨record', hmem', hw'⟩ := mem_staged.mp hw
      exact ⟨record', (hwrite record' w.2).mpr (.inl hmem'), hw'⟩
    · obtain ⟨record', hmem', hw'⟩ := mem_staged.mp hw
      exact ⟨record', (hwrite record' w.2).mpr (.inr hmem'), hw'⟩
  obtain ⟨record', hmem', hkey'⟩ := hother
  obtain ⟨_, c, _, hc, hfiled⟩ := h.filed hmem
  obtain ⟨_, c', _, hc', hfiled'⟩ := h.filed hmem'
  have hsame := (hfiled.eq_of_member hfiled' (hkey.symm.trans hkey')).2
  rw [hstage, hc', ← hsame, ← hc]

end Stage

end CivicCast.Backup.Archive
