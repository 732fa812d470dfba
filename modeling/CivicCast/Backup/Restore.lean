import CivicCast.Backup.Capture

/-!
# What the steps of a restore do

Each step of `restore_backup` has a lemma here for what it returns where it is not refused. The
mapping of media paths holds the roots that move, the longest first, so that a path follows the
root that governs it (`Relocates.remapColumn_follows`); a state file is mapped once
(`remapStates_ok`); the payload is written over what stays on the disk (`restorePayload_ok`).
-/

namespace CivicCast.Backup.Archive

open Lib List Function Option

variable {B : Type}

/-! ## The checks of a restore -/

section Checks

variable {S C : Type} {T : Path → Path} {targets : Targets} {records : List Record}
  {replacement : Replacement B C}

lemma verifyMembers_ok [DecidableEq S] {sha256 : B → S} {stage : Stage B}
    {members : List (Text × S)}
    (h : ∀ m ∈ members, ∃ content, safeMember stage m.1 = .ok content ∧ sha256 content = m.2) :
    verifyMembers sha256 stage members = .ok () := by
  induction members with
  | nil => rfl
  | cons m rest ih =>
    obtain ⟨⟨content, hcontent, hdigest⟩, hrest⟩ := forall_mem_cons.mp h
    unfold verifyMembers
    rw [hcontent]
    change (if sha256 content = m.2 then _ else _) = _
    rw [if_pos hdigest]
    exact ih hrest

/-- What the replacement station has for a managed record. -/
def ManagedOk (replacement : Replacement B C) (T : Path → Path) : Record → Prop
  | .file record => ∀ name ∈ record.managedRoot,
      replacement.managedRoots name = some (T record.sourcePath) ∧
      replacement.files (T record.sourcePath) = none ∧
      ∀ t ∈ record.relativePath, ∃ parts, safeMediaRelativePath t = .ok parts
  | .mediaRoot source name? => ∀ name ∈ name?,
      replacement.managedRoots name = some (T source) ∧ replacement.files (T source) = none
  | .credentialExport => True

lemma managedTarget_ok {source : Path} {name : Text} {relativePath : Option Text}
    (hname : replacement.managedRoots name = some (T source))
    (hfree : replacement.files (T source) = none)
    (hrelative : ∀ t ∈ relativePath, ∃ parts, safeMediaRelativePath t = .ok parts)
    (hagree : ∀ t ∈ targets source, t = T source) :
    managedTarget replacement source name relativePath targets =
      .ok (update targets source (some (T source))) := by
  have hsame : (targets source).any (· ≠ T source) = false := by
    cases htarget : targets source with
    | none => rfl
    | some t => simp [hagree t htarget]
  unfold managedTarget
  simp only [hname, hsame, hfree]
  cases relativePath with
  | none => rfl
  | some t =>
    obtain ⟨parts, hparts⟩ := hrelative t rfl
    simp only [hparts]
    rfl

/-- The managed roots go to the roots of the replacement station, and the rest of the mapping is
as it was given. -/
def Retargets (replacement : Replacement B C) (T : Path → Path) (records : List Record)
    (targets : Targets) : Prop :=
  ∃ targets', managedRestoreTargets replacement records targets = .ok targets' ∧
    (∀ source, ∀ t ∈ targets source, targets' source = some t) ∧
    ∀ record ∈ records, record.managedRoot.isSome = true →
      ∀ source ∈ record.sourcePath, targets' source = some (T source)

lemma managedRestoreTargets_ok (h : ∀ record ∈ records, ManagedOk replacement T record)
    (hagree : ∀ record ∈ records, record.managedRoot.isSome = true →
      ∀ source ∈ record.sourcePath, ∀ t ∈ targets source, t = T source) :
    Retargets replacement T records targets := by
  induction records generalizing targets with
  | nil => exact ⟨targets, rfl, fun _ _ ht => ht, nofun⟩
  | cons record rest ih =>
    obtain ⟨hrecord, hrest⟩ := forall_mem_cons.mp h
    obtain ⟨hfirst, hothers⟩ := forall_mem_cons.mp hagree
    -- a record without a managed root changes nothing
    have hskip : record.managedRoot = none →
        managedRestoreTargets replacement (record :: rest) targets =
          managedRestoreTargets replacement rest targets →
        Retargets replacement T (record :: rest) targets := by
      intro hnone heq
      obtain ⟨targets', hok, hkept, hmanaged⟩ := ih hrest hothers
      refine ⟨targets', heq.trans hok, hkept, forall_mem_cons.mpr ⟨?_, hmanaged⟩⟩
      intro hsome
      rw [hnone] at hsome
      cases hsome
    -- a managed one sets its own source
    have hset : ∀ source ∈ record.sourcePath, record.managedRoot.isSome = true →
        managedRestoreTargets replacement (record :: rest) targets =
          managedRestoreTargets replacement rest
            (update targets source (some (T source))) →
        Retargets replacement T (record :: rest) targets := by
      intro source hsource hsome heq
      have hagree' : ∀ other ∈ rest, other.managedRoot.isSome = true →
          ∀ source' ∈ other.sourcePath,
            ∀ t ∈ update targets source (some (T source)) source', t = T source' := by
        intro other hother hmanaged source' hsource' t ht
        by_cases hsame : source' = source
        · subst hsame
          rw [update_self] at ht
          exact (some.inj ht).symm
        · rw [update_of_ne hsame] at ht
          exact hothers other hother hmanaged source' hsource' t ht
      obtain ⟨targets', hok, hkept, hmanaged⟩ := ih hrest hagree'
      have hself : targets' source = some (T source) := hkept source (T source) (update_self ..)
      refine ⟨targets', heq.trans hok, ?_, forall_mem_cons.mpr ⟨?_, hmanaged⟩⟩
      · intro source' t ht
        by_cases hsame : source' = source
        · subst hsame
          rw [hself, hfirst hsome source' hsource t ht]
        · exact hkept source' t ((update_of_ne hsame _ _).trans ht)
      · intro _ source' hsource'
        obtain rfl : source = source' := some.inj (hsource.symm.trans hsource')
        exact hself
    cases record with
    | file record =>
      cases hname : record.managedRoot with
      | none => exact hskip hname (by simp [managedRestoreTargets, hname])
      | some name =>
        obtain ⟨hroot, hfree, hrelative⟩ := hrecord name hname
        have hsome : (Record.file record).managedRoot.isSome = true := by
          simp [Record.managedRoot, hname]
        have htarget := managedTarget_ok hroot hfree hrelative (hfirst hsome _ rfl)
        refine hset record.sourcePath rfl hsome ?_
        simp only [managedRestoreTargets, hname, htarget]
        rfl
    | mediaRoot source name? =>
      cases name? with
      | none => exact hskip rfl rfl
      | some name =>
        obtain ⟨hroot, hfree⟩ := hrecord name rfl
        have htarget : managedTarget replacement source name none targets =
            .ok (update targets source (some (T source))) :=
          managedTarget_ok hroot hfree (by simp) (hfirst rfl _ rfl)
        refine hset source rfl rfl ?_
        simp only [managedRestoreTargets, htarget]
        rfl
    | credentialExport => exact hskip rfl rfl

lemma validateSources_ok
    (h : ∀ record ∈ records, ∀ source ∈ record.sourcePath,
      ∃ target, targets source = some target ∧ target.isAbsolute = true) :
    validateSources targets records = .ok () := by
  induction records with
  | nil => rfl
  | cons record rest ih =>
    obtain ⟨hrecord, hrest⟩ := forall_mem_cons.mp h
    unfold validateSources
    cases hsource : record.sourcePath with
    | none => exact ih hrest
    | some source =>
      obtain ⟨target, htarget, habsolute⟩ := hrecord source hsource
      simp only [htarget, habsolute]
      exact ih hrest

lemma validateRelatives_ok
    (h : ∀ record, Record.file record ∈ records → record.kind = .media →
      ∃ parts, safeMediaRelativePath (record.relativePath.getD []) = .ok parts) :
    validateRelatives records = .ok () := by
  induction records with
  | nil => rfl
  | cons record rest ih =>
    have hrest := ih fun record' hmem => h record' (mem_cons_of_mem _ hmem)
    cases record with
    | file record =>
      unfold validateRelatives
      by_cases hkind : record.kind = .media
      · obtain ⟨parts, hparts⟩ := h record mem_cons_self hkind
        rw [if_pos hkind, hparts]
        exact hrest
      · rw [if_neg hkind]
        exact hrest
    | mediaRoot _ _ | credentialExport => exact hrest

end Checks

/-! ## The roots that move -/

section Mappings

variable {P : Path → Prop} {T : Path → Path} {root x : Path} {mappings : Mappings}
  {fold : Path → Text} {targets : Targets} {records : List Record}

/-- The longest of the roots above a path that move. -/
structure Governs (P : Path → Prop) (T : Path → Path) (root x : Path) : Prop where
  captured : P root
  moves : T root ≠ root
  above : root.Above x
  longest : ∀ other, P other → T other ≠ other → other.Above x →
    other.parts.length ≤ root.parts.length

/-- What becomes of a path in the database or in a state file. -/
inductive Follows (P : Path → Prop) (T : Path → Path) : Column → Column → Prop
  | moved {root : Path} {rest : List Text} (h : Governs P T root (root.joinpath rest)) :
    Follows P T (some (root.joinpath rest)) (some ((T root).joinpath rest))
  | stays {column : Column} (h : ∀ x ∈ column, ∀ root, P root → root.Above x → T root = root) :
    Follows P T column column

/-- The mappings are the roots that move, the longest first. -/
structure Relocates (P : Path → Prop) (T : Path → Path) (mappings : Mappings) : Prop where
  mem : ∀ m, m ∈ mappings ↔ P m.1 ∧ T m.1 ≠ m.1 ∧ m.2 = T m.1
  longest : mappings.Pairwise fun a b => b.1.parts.length ≤ a.1.parts.length

lemma mem_setMapping {source : Path} (hinj : ∀ p q, P p → P q → fold p = fold q → p = q)
    (hsource : P source) (h : ∀ m ∈ mappings, P m.1 ∧ m.2 = T m.1) (m : Path × Path) :
    m ∈ setMapping fold source (T source) mappings ↔ m ∈ mappings ∨ m = (source, T source) := by
  -- an entry with the key of this root is the entry of this root
  have hsame : ∀ m ∈ mappings, fold m.1 = fold source → m = (source, T source) := by
    intro m hm hfold
    obtain ⟨hP, hT⟩ := h m hm
    have hkey : m.1 = source := hinj m.1 source hP hsource hfold
    rw [← hkey, ← hT]
  unfold setMapping
  split
  · rename_i hany
    obtain ⟨old, hold, hfold⟩ : ∃ old ∈ mappings, fold old.1 = fold source := by
      simpa using hany
    have hmap : (mappings.map fun m => if fold m.1 = fold source then (source, T source) else m) =
        mappings := by
      conv_rhs => rw [← map_id mappings]
      refine map_congr_left fun m hm => ?_
      split
      · rename_i hfold'
        exact (hsame m hm hfold').symm
      · rfl
    rw [hmap]
    constructor
    · exact .inl
    · rintro (hm | rfl)
      · exact hm
      · rwa [hsame old hold hfold] at hold
  · rw [mem_append, mem_singleton]

lemma rootMappings_ok
    (hinj : ∀ p q, P p → P q → fold p = fold q → p = q)
    (hroots : ∀ source name?, .mediaRoot source name? ∈ records → P source ∧
      source.isAbsolute = true ∧ targets source = some (T source) ∧ (T source).isAbsolute = true)
    (h : ∀ m ∈ mappings, P m.1 ∧ m.2 = T m.1) :
    ∃ mappings', rootMappings fold targets records mappings = .ok mappings' ∧
      ∀ m, m ∈ mappings' ↔ m ∈ mappings ∨
        (∃ name?, .mediaRoot m.1 name? ∈ records) ∧ m.2 = T m.1 := by
  induction records generalizing mappings with
  | nil => exact ⟨mappings, rfl, fun m => by simp⟩
  | cons record rest ih =>
    have hrest := fun source name? hmem =>
      hroots source name? (mem_cons_of_mem record hmem)
    cases record with
    | file record | credentialExport =>
      obtain ⟨mappings', hok, hmem⟩ := ih hrest h
      exact ⟨mappings', hok, fun m => by simp [hmem]⟩
    | mediaRoot source name? =>
      obtain ⟨hP, habsolute, htarget, habsolute'⟩ := hroots source name? mem_cons_self
      have hset := mem_setMapping hinj hP h
      have hnext : ∀ m ∈ setMapping fold source (T source) mappings, P m.1 ∧ m.2 = T m.1 := by
        intro m hm
        rcases (hset m).mp hm with hm | rfl
        · exact h m hm
        · exact ⟨hP, rfl⟩
      obtain ⟨mappings', hok, hmem⟩ := ih hrest hnext
      refine ⟨mappings', ?_, fun m => ?_⟩
      · simp only [rootMappings, htarget, habsolute, habsolute']
        exact hok
      · rw [hmem, hset]
        constructor
        · -- there before, of this record, or of a later one
          rintro ((hm | rfl) | ⟨⟨other, hother⟩, hT⟩)
          · exact .inl hm
          · exact .inr ⟨⟨name?, mem_cons_self⟩, rfl⟩
          · exact .inr ⟨⟨other, mem_cons_of_mem _ hother⟩, hT⟩
        · rintro (hm | ⟨⟨other, hother⟩, hT⟩)
          · exact .inl (.inl hm)
          · rcases mem_cons.mp hother with heq | hother
            · obtain ⟨hsource, -⟩ := Record.mediaRoot.inj heq
              exact .inl (.inr (Prod.ext hsource (by rw [hT, hsource])))
            · exact .inr ⟨⟨other, hother⟩, hT⟩

/-- `_media_path_mappings` has every root that moves, where the roots differ in more than case. -/
lemma mediaPathMappings_ok
    (hinj : ∀ p q, P p → P q → fold p = fold q → p = q)
    (hroots : ∀ source name?, .mediaRoot source name? ∈ records → P source ∧
      source.isAbsolute = true ∧ targets source = some (T source) ∧ (T source).isAbsolute = true)
    (hall : ∀ root, P root → ∃ name?, .mediaRoot root name? ∈ records) :
    ∃ mappings, mediaPathMappings fold records targets = .ok mappings ∧
      Relocates P T mappings := by
  obtain ⟨mappings, hok, hmem⟩ := rootMappings_ok hinj hroots (by simp : ∀ m ∈ [], _)
  unfold mediaPathMappings
  rw [hok]
  refine ⟨_, rfl, ?_, ?_⟩
  · -- the roots that stay where they are are left out
    intro m
    rw [mem_mergeSort, mem_filter, hmem]
    constructor
    · rintro ⟨hm | ⟨⟨name?, hrecord⟩, hT⟩, hne⟩
      · cases hm
      · have hmoves : m.1 ≠ m.2 := by simpa using hne
        exact ⟨(hroots m.1 name? hrecord).1, fun heq => hmoves (by rw [hT, heq]), hT⟩
    · rintro ⟨hP, hmoves, hT⟩
      refine ⟨.inr ⟨hall m.1 hP, hT⟩, ?_⟩
      rw [hT]
      simpa using Ne.symm hmoves
  · -- the longest paths come first
    let longer : Path × Path → Path × Path → Bool := fun a b => b.1.parts.length ≤ a.1.parts.length
    have htrans : ∀ a b c, longer a b = true → longer b c = true → longer a c = true := by
      intro a b c hab hbc
      simp only [longer, decide_eq_true_eq] at *
      omega
    have htotal : ∀ a b, (longer a b || longer b a) = true := by
      intro a b
      simp only [longer, Bool.or_eq_true, decide_eq_true_eq]
      omega
    have hsorted := pairwise_mergeSort htrans htotal (mappings.filter fun m => m.1 ≠ m.2)
    exact hsorted.imp fun hle => by simpa [longer] using hle

namespace Relocates

variable (h : Relocates P T mappings)

include h

/-- The mapping that is found is that of the root that governs the path. -/
lemma remapColumn_follows (habsolute : ∀ root, P root → root.isAbsolute = true)
    (column : Column) : Follows P T column (remapColumn mappings column) := by
  -- where no mapping is found the column keeps its path
  have hstays : mappedMediaPath column mappings = none →
      (∀ x ∈ column, ∀ root, P root → root.Above x → T root = root) →
      Follows P T column (remapColumn mappings column) := by
    intro hnone hroots
    unfold remapColumn
    rw [hnone]
    exact .stays hroots
  cases column with
  | none => exact hstays rfl nofun
  | some x =>
    by_cases hx : x.isAbsolute = true
    · have hfind : mappedMediaPath (some x) mappings =
          mappings.findSome? fun m => (x.relativeTo m.1).map m.2.joinpath := by
        simp [mappedMediaPath, hx]
      cases hfound : mappings.findSome? fun m => (x.relativeTo m.1).map m.2.joinpath with
      | none =>
        refine hstays (hfind.trans hfound) ?_
        rintro y hy root hP ⟨rest, hrest⟩
        obtain rfl : x = y := some.inj hy
        by_contra hmoves
        have hmem : (root, T root) ∈ mappings := (h.mem _).mpr ⟨hP, hmoves, rfl⟩
        have hmiss := findSome?_eq_none_iff.mp hfound _ hmem
        rw [Path.relativeTo_eq_some.mpr hrest] at hmiss
        cases hmiss
      | some y =>
        obtain ⟨before, m, after, hlist, hhit, hmiss⟩ := findSome?_eq_some_iff.mp hfound
        obtain ⟨rest, hrest, hy⟩ := map_eq_some_iff.mp hhit
        have hx' : x = m.1.joinpath rest := Path.relativeTo_eq_some.mp hrest
        have hm : m ∈ mappings := by simp [hlist]
        obtain ⟨hP, hmoves, hT⟩ := (h.mem m).mp hm
        have hgoverns : Governs P T m.1 (m.1.joinpath rest) := by
          refine ⟨hP, hmoves, ⟨rest, rfl⟩, ?_⟩
          rintro other hother hothermoves ⟨rest', hrest'⟩
          have hmem : (other, T other) ∈ mappings := (h.mem _).mpr ⟨hother, hothermoves, rfl⟩
          have hsorted := h.longest
          rw [hlist] at hmem hsorted
          rcases mem_append.mp hmem with hbefore | hafter
          · -- a root above the path that comes before would have been found
            have hnone := hmiss _ hbefore
            rw [Path.relativeTo_eq_some.mpr (hx'.trans hrest')] at hnone
            cases hnone
          · rcases mem_cons.mp hafter with rfl | hafter
            · exact le_refl _
            · have hlater := (pairwise_append.mp hsorted).2.1
              exact rel_of_pairwise_cons hlater hafter
        have hremap : remapColumn mappings (some x) = some ((T m.1).joinpath rest) := by
          unfold remapColumn
          rw [hfind, hfound, ← hy, hT]
          rfl
        rw [hremap, hx']
        exact .moved hgoverns
    · refine hstays (by simp [mappedMediaPath, hx]) ?_
      rintro y hy root hP ⟨rest, hrest⟩
      obtain rfl : x = y := some.inj hy
      have hroot : root.isAbsolute = true := habsolute root hP
      rw [hrest] at hx
      exact absurd hroot hx

end Relocates

end Mappings

/-! ## The state files -/

section States

variable {J : Type} {json : StateJson B J} {casefold : Text → Text} {P : Path → Prop}
  {T : Path → Path} {mappings : Mappings}

/-- Each location follows the roots. -/
structure LocationsFollow (P : Path → Prop) (T : Path → Path)
    (locations locations' : StorageLocations) : Prop where
  mediaLibrary : Follows P T locations.mediaLibrary locations'.mediaLibrary
  recordings : Follows P T locations.recordings locations'.recordings
  backups : Follows P T locations.backups locations'.backups

/-- What may become of a state file: it stays, or it is the same document with other locations. -/
inductive StateFollows (json : StateJson B J) (P : Path → Prop) (T : Path → Path) : B → B → Prop
  | stays {content : B} : StateFollows json P T content content
  | moved {content : B} {state : StationState J} {locations locations' : StorageLocations}
    (hstate : json.loads content = some state)
    (hlocations : state.storageLocations = some locations)
    (h : LocationsFollow P T locations locations') :
    StateFollows json P T content
      (json.dumps { state with storageLocations := some locations' })

lemma remapState_ok (h : Relocates P T mappings)
    (habsolute : ∀ root, P root → root.isAbsolute = true) {content : B}
    (hvalid : (json.loads content).isSome = true) :
    ∃ content', remapState json mappings content = .ok content' ∧
      StateFollows json P T content content' := by
  obtain ⟨state, hstate⟩ := isSome_iff_exists.mp hvalid
  unfold remapState
  simp only [hstate]
  cases hlocations : state.storageLocations with
  | none => exact ⟨content, rfl, .stays⟩
  | some locations =>
    have hfollow : LocationsFollow P T locations (locations.remap mappings) := by
      constructor
      · exact h.remapColumn_follows habsolute locations.mediaLibrary
      · exact h.remapColumn_follows habsolute locations.recordings
      · exact h.remapColumn_follows habsolute locations.backups
    dsimp only
    split
    · exact ⟨content, rfl, .stays⟩
    · exact ⟨_, rfl, .moved hstate hlocations hfollow⟩

def Record.stateKey (casefold : Text → Text) : Record → Option (List Text)
  | .file record => if record.isState casefold then some (posixParts record.member) else none
  | _ => none

lemma remapStates_ok {records : List Record} {stage : Stage B}
    (hsafe : ∀ record, Record.file record ∈ records → ∀ (stage : Stage B) content,
      stage (posixParts record.member) = some content →
        safeMember stage record.member = .ok content)
    (hvalid : ∀ key ∈ records.filterMap (Record.stateKey casefold), ∃ content content',
      stage key = some content ∧ remapState json mappings content = .ok content')
    (hnodup : (records.filterMap (Record.stateKey casefold)).Nodup) :
    ∃ stage', remapStates json casefold mappings records stage = .ok stage' ∧
      (∀ key, key ∉ records.filterMap (Record.stateKey casefold) → stage' key = stage key) ∧
      ∀ key ∈ records.filterMap (Record.stateKey casefold), ∀ content, stage key = some content →
        ∃ content', remapState json mappings content = .ok content' ∧
          stage' key = some content' := by
  induction records generalizing stage with
  | nil => exact ⟨stage, rfl, fun _ _ => rfl, nofun⟩
  | cons record rest ih =>
    have hsafe' := fun record' hmem => hsafe record' (mem_cons_of_mem record hmem)
    cases hkey : record.stateKey casefold with
    | none =>
      rw [filterMap_cons_none hkey] at hvalid hnodup ⊢
      obtain ⟨stage', hok, hrest⟩ := ih hsafe' hvalid hnodup
      refine ⟨stage', ?_, hrest⟩
      cases record with
      | file record =>
        have hstate : ¬record.isState casefold = true := by
          intro hstate
          simp [Record.stateKey, hstate] at hkey
        rw [remapStates, if_neg hstate, hok]
      | mediaRoot _ _ | credentialExport => exact hok
    | some key =>
      rw [filterMap_cons_some hkey] at hvalid hnodup ⊢
      obtain ⟨hfresh, hnodup'⟩ := nodup_cons.mp hnodup
      obtain ⟨⟨content, content', hcontent, hremap⟩, hvalid'⟩ := forall_mem_cons.mp hvalid
      cases record with
      | mediaRoot _ _ | credentialExport => cases hkey
      | file record =>
        obtain ⟨hstate, rfl⟩ : record.isState casefold = true ∧ posixParts record.member = key := by
          simpa [Record.stateKey] using hkey
        have hmember := hsafe record mem_cons_self stage content hcontent
        -- the keys to come are not this one
        have hother : ∀ key ∈ rest.filterMap (Record.stateKey casefold),
            update stage (posixParts record.member) (some content') key = stage key := by
          intro key hmem
          have hne : key ≠ posixParts record.member := fun heq => hfresh (heq ▸ hmem)
          exact update_of_ne hne _ _
        have hvalid'' : ∀ key ∈ rest.filterMap (Record.stateKey casefold), ∃ content content'',
            update stage (posixParts record.member) (some content') key = some content ∧
              remapState json mappings content = .ok content'' := by
          intro key hmem
          rw [hother key hmem]
          exact hvalid' key hmem
        obtain ⟨stage', hok, hkept, hmapped⟩ := ih hsafe' hvalid'' hnodup'
        refine ⟨stage', ?_, ?_, forall_mem_cons.mpr ⟨?_, ?_⟩⟩
        · rw [remapStates, if_pos hstate, hmember]
          change (remapState json mappings content >>= _) = _
          rw [hremap]
          exact hok
        · intro key hnot
          obtain ⟨hne, hnot⟩ := ne_and_not_mem_of_not_mem_cons hnot
          rw [hkept key hnot, update_of_ne hne]
        · intro c hc
          obtain rfl : content = c := some.inj (hcontent.symm.trans hc)
          exact ⟨content', hremap, by rw [hkept _ hfresh, update_self]⟩
        · intro key hmem c hc
          exact hmapped key hmem c ((hother key hmem).trans hc)

lemma stateKey_config {disk : Disk B} {source : Path} {index : ℕ} {c : B} {key : List Text}
    (hfile : disk.node source = some (.file c))
    (h : Record.stateKey casefold (.file ⟨.config, asPosix (fileParts configDir index source.name),
      source, none, none⟩) = some key) : key = (Slot.config index).parts source.name := by
  have hlegal : ∀ part ∈ (Slot.config index).parts source.name, LegalName part :=
    Slot.parts_legal (disk.name_legal hfile) (by simp)
  have hparts := posixParts_asPosix (Slot.parts_ne_nil _ _) hlegal
  obtain ⟨-, hkey⟩ : _ ∧ posixParts (asPosix (fileParts configDir index source.name)) = key := by
    simpa [Record.stateKey] using h
  rw [← hkey]
  exact hparts

lemma nodup_stateKeys_copyFiles {disk : Disk B} {sources : List Path} :
    (((copyFiles disk .config configDir sources).map Prod.fst).filterMap
      (Record.stateKey casefold)).Nodup := by
  have hindex : sources.zipIdx.Pairwise fun a b => a.2 < b.2 := by
    rw [← pairwise_map, zipIdx_map_snd]
    exact pairwise_lt_range'
  unfold copyFiles List.Nodup
  rw [map_filterMap, filterMap_filterMap, pairwise_filterMap]
  refine hindex.imp ?_
  rintro ⟨source, index⟩ ⟨source', index'⟩ hlt key hfirst key' hsecond heq
  dsimp only at hfirst hsecond
  split at hfirst
  · rename_i hfile
    split at hsecond
    · rename_i hfile'
      have hslot : (Slot.config index).parts source.name =
          (Slot.config index').parts source'.name := by
        rw [← stateKey_config hfile hfirst, heq, stateKey_config hfile' hsecond]
      cases Slot.parts_inj hslot
      exact lt_irrefl _ hlt
    · cases hsecond
  · cases hfirst

end States

/-! ## The files that are written, and those that were there -/

section Files

variable {targets : Targets} {stage : Stage B} {records : List Record} {files : Path → Option B}
  {stamp : Text} {isDir : Path → Bool} {p : Path} {root rollback : Path} {content : B}

lemma restorePayload_ok (files : Path → Option B) (n : ℕ)
    (h : ∀ record, Record.file record ∈ records → ∃ w, restoreTarget targets stage record = .ok w) :
    ∃ writes, restorePayload targets stage records (files, n) =
        .ok (writeAll writes files, n + writes.length) ∧
      ∀ w, w ∈ writes ↔ ∃ record, Record.file record ∈ records ∧
        restoreTarget targets stage record = .ok w := by
  induction records generalizing files n with
  | nil => exact ⟨[], rfl, by simp⟩
  | cons record rest ih =>
    have hrest := fun record' hmem => h record' (mem_cons_of_mem record hmem)
    cases record with
    | file record =>
      obtain ⟨w, hw⟩ := h record mem_cons_self
      obtain ⟨writes, hok, hmem⟩ := ih _ _ hrest
      refine ⟨w :: writes, ?_, fun w' => ?_⟩
      · rw [restorePayload, hw]
        change restorePayload targets stage rest (_, n + 1) = _
        rw [hok, writeAll_cons, length_cons]
        congr 2
        omega
      · rw [mem_cons, hmem]
        constructor
        · rintro (rfl | ⟨record', hrecord', hw'⟩)
          · exact ⟨record, mem_cons_self, hw⟩
          · exact ⟨record', mem_cons_of_mem _ hrecord', hw'⟩
        · rintro ⟨record', hrecord', hw'⟩
          rcases mem_cons.mp hrecord' with heq | hrecord'
          · cases heq
            exact .inl (Except.ok.inj (hw'.symm.trans hw))
          · exact .inr ⟨record', hrecord', hw'⟩
    | mediaRoot _ _ | credentialExport =>
      -- nothing is written for these
      obtain ⟨writes, hok, hmem⟩ := ih _ _ hrest
      exact ⟨writes, hok, fun w => by simp [hmem]⟩

lemma moveTree_old
    (h : moveTree root rollback files p = some content) : ∃ q, files q = some content := by
  unfold moveTree at h
  split at h
  · exact ⟨_, h⟩
  · split at h
    · cases h
    · exact ⟨p, h⟩

lemma moveTree_of_not_above (hroot : ¬root.Above p)
    (hrollback : ¬rollback.Above p) : moveTree root rollback files p = files p := by
  unfold moveTree
  rw [Path.relativeTo_eq_none.mpr hrollback, Path.relativeTo_eq_none.mpr hroot]
  rfl

lemma preserveManagedRoots_old
    (h : preserveManagedRoots stamp isDir targets records files p = some content) :
    ∃ q, files q = some content := by
  induction records generalizing isDir files p with
  | nil => exact ⟨p, h⟩
  | cons record rest ih =>
    cases record with
    | file _ | credentialExport => exact ih h
    | mediaRoot source name? =>
      cases name? with
      | none => exact ih h
      | some name =>
        rw [preserveManagedRoots] at h
        cases htarget : targets source with
        | none =>
          rw [htarget] at h
          exact ih h
        | some root =>
          rw [htarget] at h
          obtain ⟨q, hq⟩ := ih h
          split at hq
          · -- the root stood in the way, and was moved
            exact moveTree_old hq
          · exact ⟨q, hq⟩

lemma preserveManagedRoots_of_not_above
    (h : ∀ source name, Record.mediaRoot source (some name) ∈ records → ∀ root ∈ targets source,
      ¬root.Above p ∧ ¬(rollbackPath stamp root).Above p) :
    preserveManagedRoots stamp isDir targets records files p = files p := by
  induction records generalizing isDir files with
  | nil => rfl
  | cons record rest ih =>
    have hrest := fun source name hmem => h source name (mem_cons_of_mem record hmem)
    cases record with
    | file _ | credentialExport => exact ih hrest
    | mediaRoot source name? =>
      cases name? with
      | none => exact ih hrest
      | some name =>
        rw [preserveManagedRoots]
        cases htarget : targets source with
        | none => exact ih hrest
        | some root =>
          obtain ⟨hroot, hrollback⟩ := h source name mem_cons_self root htarget
          dsimp only
          rw [ih hrest]
          split
          · exact moveTree_of_not_above hroot hrollback
          · rfl

end Files

end CivicCast.Backup.Archive
