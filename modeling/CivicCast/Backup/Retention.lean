import CivicCast.Lib.Rank
import CivicCast.Lib.Python

/-!
# Retention of station backups

`StationBackupService.create_backup` from the point where its archive is captured: the archive
is published under its final name, `_prune` lists the archives of the destination by
modification time, newest first, and unlinks those past the retention count, and the size of
the published file is read for the result.

The modification time of a file is not the time its backup was taken: a clock that moved back,
or an archive copied in from another disk, puts the two in different orders. Then retention can
unlink the archive it was called after. `backup_costs_none_iff` says exactly when a backup that
is published costs none.
-/

namespace CivicCast.Backup

open Lib List

inductive FileKind where
  | regular | symlink | directory
  deriving DecidableEq

/-- An entry of the destination folder. `taken` is when the backup in it was taken (the
manifest inside the archive has it; retention never reads it), `mtime` its `st_mtime`. -/
structure Entry where
  name : Text
  kind : FileKind
  taken : ℤ
  mtime : ℤ
  size : ℕ
  deriving DecidableEq

def archiveStem : Text :=
  ['s', 't', 'a', 't', 'i', 'o', 'n', '-', 'b', 'a', 'c', 'k', 'u', 'p', '-']

def archiveSuffix : Text := ['.', 'c', 'c', 'b', 'a', 'c', 'k', 'u', 'p']

/-- `Path.match(_ARCHIVE_GLOB)`: `station-backup-*.ccbackup`. -/
def matchesArchiveGlob (name : Text) : Bool :=
  archiveStem.isPrefixOf name && archiveSuffix.isSuffixOf name

/-- The entries `list_backups` makes artifacts of. -/
def Entry.isArchive (e : Entry) : Bool := matchesArchiveGlob e.name && e.kind == .regular

def archives (destination : List Entry) : List Entry := destination.filter Entry.isArchive

/-- Newest modification first; files modified at the same time stay in the order of the folder
(`sorted` is stable, also in reverse). -/
def listBackups (destination : List Entry) : List Entry :=
  (archives destination).mergeSort fun a b => b.mtime ≤ a.mtime

inductive Failure where
  | retention
  | capture (message : Text)
  | cleanup (message : Text)
  | permission (path : Text)
  | fileNotFound (path : Text)
  deriving DecidableEq

def maxRetention : ℤ := 100

def validateRetention (count : ℤ) : Except Failure Unit :=
  if 1 ≤ count ∧ count ≤ maxRetention then .ok () else .error .retention

def unlink (refuses : Text → Bool) (name : Text) (destination : List Entry) :
    Except Failure (List Entry) :=
  if refuses name then .error (.permission name)
  else .ok (destination.filter fun e => e.name ≠ name)

/-- The loop of `_prune`: each artifact is unlinked in turn, and the first one the system
refuses to remove ends the loop. -/
def unlinkEach (refuses : Text → Bool) : List Entry → List Entry → Except Failure Unit × List Entry
  | [], destination => (.ok (), destination)
  | artifact :: rest, destination =>
    if matchesArchiveGlob artifact.name then
      match unlink refuses artifact.name destination with
      | .error failure => (.error failure, destination)
      | .ok destination => unlinkEach refuses rest destination
    else unlinkEach refuses rest destination

def prune (refuses : Text → Bool) (retentionCount : ℤ) (destination : List Entry) :
    Except Failure Unit × List Entry :=
  match validateRetention retentionCount with
  | .error failure => (.error failure, destination)
  | .ok () =>
    unlinkEach refuses ((listBackups destination).drop retentionCount.toNat) destination

/-- What the capture leaves encrypted beside the archives: the start of the backup, its stamp
in the name, the random part of the name, and what `stat` says of the file. -/
structure Captured where
  started : ℤ
  stamp : Text
  token : Text
  mtime : ℤ
  size : ℕ
  deriving DecidableEq

def Captured.backupId (c : Captured) : Text := archiveStem ++ (c.stamp ++ ['-'] ++ c.token)

def Captured.archive (c : Captured) : Entry where
  name := c.backupId ++ archiveSuffix
  kind := .regular
  taken := c.started
  mtime := c.mtime
  size := c.size

/-- `partial_path.replace(final_path)`. -/
def publish (new : Entry) (destination : List Entry) : List Entry :=
  new :: destination.filter fun e => e.name ≠ new.name

structure BackupArtifact where
  backupId : Text
  path : Text
  createdAt : ℤ
  sizeBytes : ℕ
  deriving DecidableEq

/-- What the system answers during one call: how the capture ends, the order in which it lists
a folder, how the removal of the scratch folder and the progress notes after publishing end,
and which files it refuses to unlink. -/
structure Course where
  capture : Except Failure Captured
  listing : List Entry → List Entry
  listing_perm : ∀ destination, (listing destination).Perm destination
  cleanup : Except Failure Unit
  refuses : Text → Bool

def createBackup (c : Course) (retentionCount : ℤ) (destination : List Entry) :
    Except Failure BackupArtifact × List Entry :=
  match validateRetention retentionCount with
  | .error failure => (.error failure, destination)
  | .ok () =>
    match c.capture with
    | .error failure => (.error failure, destination)
    | .ok captured =>
      let published := c.listing (publish captured.archive destination)
      match c.cleanup with
      | .error failure => (.error failure, published)
      | .ok () =>
        match prune c.refuses retentionCount published with
        | (.error failure, left) => (.error failure, left)
        | (.ok (), left) =>
          match left.find? fun e => e.name = captured.archive.name with
          | none => (.error (.fileNotFound captured.archive.name), left)
          | some file =>
            (.ok ⟨captured.backupId, captured.archive.name, captured.started, file.size⟩, left)

/-! ## What pruning leaves -/

variable {destination : List Entry} {refuses : Text → Bool} {e : Entry} {n : ℕ}

lemma Captured.archive_isArchive (c : Captured) : c.archive.isArchive = true := by
  have hstem : archiveStem.isPrefixOf c.archive.name = true := by
    exact isPrefixOf_iff_prefix.mpr ((prefix_append _ _).trans (prefix_append _ _))
  have hsuffix : archiveSuffix.isSuffixOf c.archive.name = true := by
    exact isSuffixOf_iff_suffix.mpr (suffix_append _ _)
  rw [Entry.isArchive, matchesArchiveGlob, hstem, hsuffix]
  rfl

/-- The artifacts `_prune` gets to before the system refuses one. -/
def unlinked (refuses : Text → Bool) (artifacts : List Entry) : List Entry :=
  artifacts.takeWhile fun a => !refuses a.name

lemma unlinkEach_left {artifacts : List Entry}
    (hglob : ∀ a ∈ artifacts, matchesArchiveGlob a.name = true) (destination : List Entry) :
    (unlinkEach refuses artifacts destination).2 =
      destination.filter fun e => e.name ∉ (unlinked refuses artifacts).map Entry.name := by
  induction artifacts generalizing destination with
  | nil => simp [unlinkEach, unlinked]
  | cons a rest ih =>
    have hrest := fun d => ih (fun b hb => hglob b (mem_cons_of_mem _ hb)) d
    cases hrefuses : refuses a.name with
    | true =>
      simp [unlinkEach, unlink, unlinked, hglob a mem_cons_self, hrefuses]
    | false =>
      have hunlinked : unlinked refuses (a :: rest) = a :: unlinked refuses rest := by
        simp [unlinked, hrefuses]
      have hstep : unlinkEach refuses (a :: rest) destination =
          unlinkEach refuses rest (destination.filter fun e => e.name ≠ a.name) := by
        simp [unlinkEach, unlink, hglob a mem_cons_self, hrefuses]
      rw [hstep, hrest, hunlinked, filter_filter]
      refine filter_congr fun e _ => ?_
      rw [Bool.eq_iff_iff, Bool.and_eq_true, decide_eq_true_iff, decide_eq_true_iff,
        decide_eq_true_iff, map_cons, mem_cons, not_or, and_comm]

lemma listBackups_perm {destination : List Entry} :
    (listBackups destination).Perm (archives destination) :=
  mergeSort_perm _ _

lemma mem_archives : e ∈ archives destination ↔ e ∈ destination ∧ e.isArchive = true :=
  mem_filter

lemma mem_listBackups : e ∈ listBackups destination ↔ e ∈ destination ∧ e.isArchive = true :=
  listBackups_perm.mem_iff.trans mem_archives

/-- Removing the names of a stretch of a list without repeated names removes that stretch. -/
lemma filter_names_append {kept cut rest : List Entry}
    (hnames : ((kept ++ (cut ++ rest)).map Entry.name).Nodup) :
    (kept ++ (cut ++ rest)).filter (fun e => e.name ∉ cut.map Entry.name) = kept ++ rest := by
  have hapart : ∀ e ∈ kept ++ rest, e.name ∉ cut.map Entry.name := by
    intro e he hcut
    simp only [map_append, nodup_append, mem_append] at hnames
    rcases mem_append.mp he with hkept | hrest
    · exact hnames.2.2 _ (mem_map_of_mem hkept) _ (.inl hcut) rfl
    · exact hnames.2.1.2.2 _ hcut _ (mem_map_of_mem hrest) rfl
  have hcut : cut.filter (fun e => e.name ∉ cut.map Entry.name) = [] := by
    rw [filter_eq_nil_iff]
    intro e he
    simpa using ⟨e, he, rfl⟩
  rw [filter_append, filter_append, hcut, nil_append, ← filter_append, filter_eq_self]
  intro e he
  simpa using hapart e he

/-- What is left of a folder when `_prune` has gone through the archives past the first `n`. -/
def pruned (refuses : Text → Bool) (n : ℕ) (destination : List Entry) : List Entry :=
  destination.filter fun e =>
    e.name ∉ (unlinked refuses ((listBackups destination).drop n)).map Entry.name

lemma prune_left {r : ℤ} (hr : validateRetention r = .ok ()) (destination : List Entry) :
    (prune refuses r destination).2 = pruned refuses r.toNat destination := by
  have hglob : ∀ a ∈ (listBackups destination).drop r.toNat, matchesArchiveGlob a.name = true := by
    intro a ha
    have harchive := (mem_listBackups.mp (mem_of_mem_drop ha)).2
    simp only [Entry.isArchive, Bool.and_eq_true] at harchive
    exact harchive.1
  rw [prune, hr]
  exact unlinkEach_left hglob destination

/-- The archives left are the first `n` listed, and of the others those from the first one the
system refuses. -/
lemma archives_pruned (refuses : Text → Bool) (n : ℕ)
    (hnames : ((listBackups destination).map Entry.name).Nodup) :
    (archives (pruned refuses n destination)).Perm
      ((listBackups destination).take n ++
        ((listBackups destination).drop n).dropWhile fun a => !refuses a.name) := by
  have hparts : (listBackups destination).take n ++
      (unlinked refuses ((listBackups destination).drop n) ++
        ((listBackups destination).drop n).dropWhile fun a => !refuses a.name) =
      listBackups destination := by
    rw [unlinked, takeWhile_append_dropWhile, take_append_drop]
  have hfiltered := filter_names_append (hparts.symm ▸ hnames)
  rw [hparts] at hfiltered
  rw [← hfiltered, archives, pruned, filter_comm]
  exact (listBackups_perm.symm.filter _)

/-- Where the system refuses none of the archives past the first `n`, the first `n` are left. -/
lemma archives_pruned_of_free (hnames : ((listBackups destination).map Entry.name).Nodup)
    (hfree : ∀ a ∈ (listBackups destination).drop n, refuses a.name = false) :
    (archives (pruned refuses n destination)).Perm ((listBackups destination).take n) := by
  have hnone : (((listBackups destination).drop n).dropWhile fun a => !refuses a.name) = [] := by
    rw [dropWhile_eq_nil_iff]
    intro a ha
    simp [hfree a ha]
  have hleft := archives_pruned refuses n hnames
  rwa [hnone, append_nil] at hleft

lemma mem_drop_of_not_mem_pruned (hnames : (destination.map Entry.name).Nodup)
    (he : e ∈ destination) (hlost : e ∉ pruned refuses n destination) :
    e ∈ (listBackups destination).drop n := by
  have hname : e.name ∈ (unlinked refuses ((listBackups destination).drop n)).map Entry.name := by
    by_contra hnot
    exact hlost (mem_filter.mpr ⟨he, by simpa using hnot⟩)
  obtain ⟨d, hd, hsame⟩ := mem_map.mp hname
  have hdrop : d ∈ (listBackups destination).drop n := (takeWhile_sublist _).subset hd
  have hmem : d ∈ destination := (mem_listBackups.mp (mem_of_mem_drop hdrop)).1
  rwa [inj_on_of_nodup_map hnames he hmem hsame.symm]

lemma not_mem_pruned_of_mem_drop
    (hfree : ∀ a ∈ (listBackups destination).drop n, refuses a.name = false)
    (he : e ∈ (listBackups destination).drop n) : e ∉ pruned refuses n destination := by
  have hunlinked : unlinked refuses ((listBackups destination).drop n) =
      (listBackups destination).drop n := by
    rw [unlinked, takeWhile_eq_self_iff]
    intro a ha
    simp [hfree a ha]
  intro hleft
  have hname := (mem_filter.mp hleft).2
  rw [hunlinked, decide_eq_true_eq] at hname
  exact hname (mem_map_of_mem he)

lemma not_mem_take_of_mem_drop {listed : List Entry} {d : Entry}
    (hnodup : (listed.map Entry.name).Nodup) (hdrop : d ∈ listed.drop n) : d ∉ listed.take n := by
  intro htake
  rw [← take_append_drop n listed] at hnodup
  exact (nodup_append.mp hnodup.of_map).2.2 d htake d hdrop rfl

/-! ## When a backup costs none -/

/-- What a published backup should leave: the new archive, nothing lost but archives taken
before every archive kept, and as many archives as retention allows. -/
structure CostsNone (destination : List Entry) (new : Entry) (retention : ℕ)
    (left : List Entry) : Prop where
  stays : new ∈ left
  older : ∀ e ∈ destination, e ∉ left →
    e.isArchive = true ∧ ∀ k ∈ archives left, e.taken < k.taken
  count : (archives left).length = min ((archives destination).length + 1) retention

/-- The modification times agree with the times the backups were taken as far as retention
goes: the first `retention` archives listed are those that at most `retention` archives are as
new as, the new one is one of them, and the system lets go of the others. -/
structure Agrees (c : Course) (destination : List Entry) (new : Entry) (retention : ℕ) :
    Prop where
  newest : asNewAs Entry.taken (archives (publish new destination)) new ≤ retention
  ranks : ∀ a ∈ archives (publish new destination),
    a ∈ (listBackups (c.listing (publish new destination))).take retention ↔
      asNewAs Entry.taken (archives (publish new destination)) a ≤ retention
  free : ∀ a ∈ archives (publish new destination),
    retention < asNewAs Entry.taken (archives (publish new destination)) a →
      c.refuses a.name = false

section Published

variable {c : Course} {destination : List Entry} {captured : Captured} {r : ℤ}

lemma createBackup_left_of_cleanup {failure : Failure} (hr : validateRetention r = .ok ())
    (hcapture : c.capture = .ok captured) (hcleanup : c.cleanup = .error failure) :
    (createBackup c r destination).2 = c.listing (publish captured.archive destination) := by
  simp only [createBackup, hr, hcapture, hcleanup]

/-- Reading the size of the result changes nothing: what is left is what pruning left. -/
lemma createBackup_left (hr : validateRetention r = .ok ())
    (hcapture : c.capture = .ok captured) (hcleanup : c.cleanup = .ok ()) :
    (createBackup c r destination).2 =
      (prune c.refuses r (c.listing (publish captured.archive destination))).2 := by
  simp only [createBackup, hr, hcapture, hcleanup]
  split
  · rename_i hprune
    rw [hprune]
  · rename_i hprune
    rw [hprune]
    split <;> rfl

variable (hnames : (destination.map Entry.name).Nodup)
  (hfresh : captured.archive.name ∉ destination.map Entry.name)

include hfresh in
lemma publish_of_fresh :
    publish captured.archive destination = captured.archive :: destination := by
  rw [publish, filter_eq_self.mpr]
  intro e he
  have hne : e.name ≠ captured.archive.name := fun h => hfresh (h ▸ mem_map_of_mem he)
  simpa using hne

include hfresh in
lemma archives_publish :
    archives (publish captured.archive destination) = captured.archive :: archives destination := by
  rw [publish_of_fresh hfresh, archives, filter_cons_of_pos captured.archive_isArchive]
  rfl

variable (c) in
include hfresh in
/-- The listing `_prune` works on: the new archive and those that were there. -/
lemma listed_perm :
    (listBackups (c.listing (publish captured.archive destination))).Perm
      (captured.archive :: archives destination) := by
  rw [← archives_publish hfresh]
  exact listBackups_perm.trans ((c.listing_perm _).filter _)

variable (c) in
include hnames hfresh in
lemma listed_nodup :
    ((listBackups (c.listing (publish captured.archive destination))).map Entry.name).Nodup := by
  have hall : ((captured.archive :: archives destination).map Entry.name).Nodup := by
    rw [map_cons, nodup_cons]
    constructor
    · intro h
      obtain ⟨e, he, hname⟩ := mem_map.mp h
      exact hfresh (hname ▸ mem_map_of_mem (mem_archives.mp he).1)
    · exact hnames.sublist (filter_sublist.map _)
  exact ((listed_perm c hfresh).map _).nodup_iff.mpr hall

include hfresh in
lemma pruned_of_room (hroom : (archives destination).length + 1 ≤ n) :
    pruned c.refuses n (c.listing (publish captured.archive destination)) =
      c.listing (publish captured.archive destination) := by
  have hlength := (listed_perm c hfresh).length_eq
  have hnone : (listBackups (c.listing (publish captured.archive destination))).drop n = [] := by
    rw [drop_eq_nil_iff, hlength]
    simpa using hroom
  rw [pruned, hnone, filter_eq_self]
  simp [unlinked]

include hfresh in
/-- Leaving every archive costs none exactly when there was room for one more. -/
lemma costsNone_listing_iff :
    CostsNone destination captured.archive n
        (c.listing (publish captured.archive destination)) ↔
      (archives destination).length + 1 ≤ n := by
  have hmem : ∀ e, e ∈ c.listing (publish captured.archive destination) ↔
      e = captured.archive ∨ e ∈ destination := by
    intro e
    rw [(c.listing_perm _).mem_iff, publish_of_fresh hfresh, mem_cons]
  have hlength : (archives (c.listing (publish captured.archive destination))).length =
      (archives destination).length + 1 := by
    have := ((c.listing_perm (publish captured.archive destination)).filter
      Entry.isArchive).length_eq
    rw [archives, this, ← archives, archives_publish hfresh, length_cons]
  constructor
  · intro h
    have := h.count
    omega
  · intro hroom
    constructor
    · exact (hmem _).mpr (.inl rfl)
    · intro e he hlost
      exact absurd ((hmem e).mpr (.inr he)) hlost
    · omega

/-- The first `n` archives listed on the one side, the others on the other, counted against
all of them. -/
lemma ranks_iff {listed all : List Entry} (hperm : listed.Perm all)
    (hnodup : (listed.map Entry.name).Nodup) (hn : n ≤ listed.length) :
    (∀ d ∈ listed.drop n, ∀ k ∈ listed.take n, d.taken < k.taken) ↔
      ∀ a ∈ all, a ∈ listed.take n ↔ asNewAs Entry.taken all a ≤ n := by
  rw [cut_iff fun d hd => not_mem_take_of_mem_drop hnodup hd, take_append_drop,
    length_take_of_le hn]
  refine forall_congr' fun a => ?_
  rw [hperm.mem_iff, asNewAs_perm hperm]

include hnames hfresh in
lemma costsNone_pruned_iff (hfull : n < (archives destination).length + 1) :
    CostsNone destination captured.archive n
        (pruned c.refuses n (c.listing (publish captured.archive destination))) ↔
      Agrees c destination captured.archive n := by
  have hperm := listed_perm c hfresh
  have hnodup := listed_nodup c hnames hfresh
  have hall := archives_publish hfresh
  set listing := c.listing (publish captured.archive destination)
  have hlength : n < (listBackups listing).length := by
    rw [hperm.length_eq]
    simpa using hfull
  have htake : ((listBackups listing).take n).length = n := length_take_of_le hlength.le
  have hranks := ranks_iff hperm hnodup hlength.le
  -- an archive is listed among the first `n` or after them
  have hsides : ∀ a ∈ captured.archive :: archives destination, a ∉ (listBackups listing).take n →
      a ∈ (listBackups listing).drop n := by
    intro a ha hnot
    have hmem := hperm.mem_iff.mpr ha
    rw [← take_append_drop n (listBackups listing), mem_append] at hmem
    exact hmem.resolve_left hnot
  constructor
  · intro h
    -- the count leaves no archive past the first `n`, so none of them was refused
    have hleft := archives_pruned c.refuses n hnodup
    have hgone : ((listBackups listing).drop n).dropWhile (fun a => !c.refuses a.name) = [] := by
      have hcount := h.count
      rw [hleft.length_eq, length_append, htake] at hcount
      exact length_eq_zero_iff.mp (by omega)
    have hfree : ∀ a ∈ (listBackups listing).drop n, c.refuses a.name = false := by
      intro a ha
      simpa using dropWhile_eq_nil_iff.mp hgone a ha
    have hnew : captured.archive ∈ (listBackups listing).take n := by
      by_contra hnot
      exact not_mem_pruned_of_mem_drop hfree (hsides _ mem_cons_self hnot) h.stays
    have hnewer : ∀ d ∈ (listBackups listing).drop n, ∀ k ∈ (listBackups listing).take n,
        d.taken < k.taken := by
      intro d hd k hk
      have hlost := not_mem_pruned_of_mem_drop hfree hd
      have hkept : k ∈ archives (pruned c.refuses n listing) :=
        (archives_pruned_of_free hnodup hfree).mem_iff.mpr hk
      rcases mem_cons.mp (hperm.mem_iff.mp (mem_of_mem_drop hd)) with rfl | hold
      · exact absurd h.stays hlost
      · exact (h.older d (mem_archives.mp hold).1 hlost).2 k hkept
    have hrank := hranks.mp hnewer
    constructor
    · rw [hall]
      exact (hrank _ mem_cons_self).mp hnew
    · rw [hall]
      exact hrank
    · rw [hall]
      intro a ha hlater
      exact hfree a (hsides a ha fun hkept => absurd ((hrank a ha).mp hkept) (not_le.mpr hlater))
  · intro h
    obtain ⟨hnewest, hrank, hfree⟩ := h
    rw [hall] at hnewest hrank hfree
    have hnewer := hranks.mpr hrank
    have hfree : ∀ a ∈ (listBackups listing).drop n, c.refuses a.name = false := by
      intro a ha
      have hmem := hperm.mem_iff.mp (mem_of_mem_drop ha)
      exact hfree a hmem (not_le.mp fun hle =>
        not_mem_take_of_mem_drop hnodup ha ((hrank a hmem).mpr hle))
    have hleft := archives_pruned_of_free hnodup hfree
    have hlisting : listing.Perm (captured.archive :: destination) := by
      rw [← publish_of_fresh hfresh]
      exact c.listing_perm _
    have hentries : (listing.map Entry.name).Nodup := by
      rw [(hlisting.map _).nodup_iff, map_cons, nodup_cons]
      exact ⟨hfresh, hnames⟩
    constructor
    · have hnew := hleft.mem_iff.mpr ((hrank _ mem_cons_self).mpr hnewest)
      exact (mem_archives.mp hnew).1
    · intro e he hlost
      have hdrop := mem_drop_of_not_mem_pruned hentries
        (hlisting.mem_iff.mpr (mem_cons_of_mem _ he)) hlost
      constructor
      · exact (mem_listBackups.mp (mem_of_mem_drop hdrop)).2
      · intro k hk
        exact hnewer e hdrop k (hleft.mem_iff.mp hk)
    · rw [hleft.length_eq, htake]
      omega

include hnames hfresh in
/-- A backup that is published leaves its archive, unlinks only archives taken before every
archive it keeps, and leaves as many as retention allows, exactly when there was room for one
more, or nothing failed after publishing and the modification times agree with the times the
backups were taken as far as retention goes. -/
theorem backup_costs_none_iff (hr : validateRetention r = .ok ())
    (hcapture : c.capture = .ok captured) :
    CostsNone destination captured.archive r.toNat (createBackup c r destination).2 ↔
      (archives destination).length + 1 ≤ r.toNat ∨
        c.cleanup = .ok () ∧ Agrees c destination captured.archive r.toNat := by
  cases hcleanup : c.cleanup with
  | error failure =>
    rw [createBackup_left_of_cleanup hr hcapture hcleanup, costsNone_listing_iff hfresh]
    simp
  | ok =>
    rw [createBackup_left hr hcapture hcleanup, prune_left hr]
    by_cases hroom : (archives destination).length + 1 ≤ r.toNat
    · rw [pruned_of_room hfresh hroom, costsNone_listing_iff hfresh]
      simp [hroom]
    · rw [costsNone_pruned_iff hnames hfresh (not_le.mp hroom)]
      simp [hroom]

end Published

/-- Entries the folder lists newest first are listed as they are. -/
lemma listBackups_of_sorted (h : (archives destination).Pairwise fun a b => b.mtime ≤ a.mtime) :
    listBackups destination = archives destination := by
  refine mergeSort_of_pairwise (h.imp ?_)
  simp

/-- Taken on Monday, and touched when it was copied in by a machine whose clock runs ahead. -/
def monday : Entry := { (Captured.archive ⟨100, ['0', '5'], ['a'], 110, 4096⟩) with mtime := 900 }

def tuesday : Captured := ⟨200, ['0', '6'], ['b'], 210, 5120⟩

/-- A call whose capture gives Tuesday's archive and in which nothing fails. -/
def tuesdayCourse (listing : List Entry → List Entry)
    (hlisting : ∀ destination, (listing destination).Perm destination) : Course where
  capture := .ok tuesday
  listing := listing
  listing_perm := hlisting
  cleanup := .ok ()
  refuses := fun _ => false

/-- With one archive to keep, Tuesday's backup unlinks itself and keeps Monday's: the copy's
modification time is later. -/
theorem tuesday_unlinks_itself :
    createBackup (tuesdayCourse List.reverse List.reverse_perm) 1 [monday] =
        (.error (.fileNotFound tuesday.archive.name), [monday]) ∧
      ¬ CostsNone [monday] tuesday.archive 1
        (createBackup (tuesdayCourse List.reverse List.reverse_perm) 1 [monday]).2 := by
  have hlisted : listBackups [monday, tuesday.archive] = [monday, tuesday.archive] :=
    listBackups_of_sorted (by decide +kernel)
  have hpublished : (publish tuesday.archive [monday]).reverse = [monday, tuesday.archive] := by
    decide +kernel
  have hcall : createBackup (tuesdayCourse reverse reverse_perm) 1 [monday] =
      (.error (.fileNotFound tuesday.archive.name), [monday]) := by
    have hvalid : validateRetention 1 = .ok () := by decide
    simp only [createBackup, prune, hvalid, tuesdayCourse, hpublished, hlisted]
    decide +kernel
  refine ⟨hcall, fun h => ?_⟩
  have hstays := h.stays
  rw [hcall] at hstays
  exact absurd hstays (by decide +kernel)

/-- On a clock that never moved, the same call keeps Tuesday's archive and unlinks Monday's. -/
theorem tuesday_costs_none :
    CostsNone [{ monday with mtime := 110 }] tuesday.archive 1
      (createBackup (tuesdayCourse id List.Perm.refl) 1 [{ monday with mtime := 110 }]).2 := by
  have hlisted : listBackups (publish tuesday.archive [{ monday with mtime := 110 }]) =
      [tuesday.archive, { monday with mtime := 110 }] :=
    listBackups_of_sorted (by decide +kernel)
  refine (backup_costs_none_iff (r := 1) (by decide +kernel)
    (by decide +kernel) rfl rfl).mpr (.inr ⟨rfl, ?_, ?_, ?_⟩)
  · decide +kernel
  · show ∀ a ∈ _, a ∈ (listBackups (publish _ _)).take 1 ↔ _
    rw [hlisted]
    decide +kernel
  · intro a _ _
    rfl

end CivicCast.Backup
