import CivicCast.Lib.Interleave

/-!
# The live copy on the CDN

`LiveCDNPublisher.sync` copies the directory an HLS sink writes into: the segments it has not
uploaded, the playlist last, and then it deletes from the CDN what the directory has dropped.
The sink goes on writing meanwhile. It appends to its newest segment, starts the next one, and
from time to time rewrites the playlist to the segments it has finished and removes older files.

`sync` lists the directory once, uploads what it finds there, finished or not, and never looks
at a name again; the playlist is read when its turn comes. `playlist_complete` is about every
interleaving in which a segment is finished when it is uploaded and the playlist, when it is
uploaded, names segments of that listing only: then the playlist on the CDN names only what is
there, complete.
-/

namespace CivicCast.Live

open Lib Lib.Prog List Function

abbrev Content : Type := List ℕ

/-- The calls of the publisher, and those of the sink. Segments go by their number. -/
inductive CdnOp where
  /-- A new publisher, with nothing uploaded. -/
  | create
  | isFile
  | glob
  /-- The names in `_uploaded`. -/
  | uploaded
  /-- `upload_file`, and the name goes to `_uploaded`. -/
  | uploadSegment (n : ℕ)
  | uploadManifest
  /-- `delete_file` of a segment that is gone, and the name leaves `_uploaded`. -/
  | deleteSegment (n : ℕ)
  | deleteManifest
  /-- `delete_file` of `evict_all`. -/
  | removeSegment (n : ℕ)
  | clear
  | append (bytes : Content)
  | finish
  | start
  | rewrite (count : ℕ)
  | remove (n : ℕ)
  deriving DecidableEq

def CdnOp.isSink : CdnOp → Bool
  | append _ | finish | start | rewrite _ | remove _ => true
  | _ => false

/-- A call of the adapter that answers `false` has raised, and has had no effect. -/
def CdnOp.Res : CdnOp → Type
  | isFile => Bool
  | glob | uploaded => List ℕ
  | uploadSegment _ | uploadManifest | deleteSegment _ | deleteManifest | removeSegment _ => Bool
  | _ => Unit

abbrev cdnIface : Iface where
  Op := CdnOp
  Ans := CdnOp.Res

/-- What the adapter raises. -/
inductive CdnError where
  | adapter
  deriving DecidableEq

abbrev CdnM := Prog cdnIface CdnError

def ask (o : CdnOp) : CdnM o.Res := .call o .ret

/-- What follows a call of the adapter: it raises where it had no effect. -/
def orRaise (done : Bool) : CdnM Unit := if done then return () else .raise .adapter

/-! ## The publisher -/

def uploadNew : List ℕ → CdnM Unit
  | [] => return ()
  | n :: rest => do
    let known : List ℕ ← ask .uploaded
    if n ∈ known then uploadNew rest
    else
      let done : Bool ← ask (.uploadSegment n)
      orRaise done
      uploadNew rest

/-- Evict what the local window has dropped. -/
def evictGone : List ℕ → CdnM Unit
  | [] => return ()
  | n :: rest => do
    let done : Bool ← ask (.deleteSegment n)
    orRaise done
    evictGone rest

/-- `true` where the playlist was uploaded, `false` where there was none. -/
def sync : CdnM Bool := do
  let there : Bool ← ask .isFile
  if there then
    let current : List ℕ ← ask .glob
    uploadNew current
    let done : Bool ← ask .uploadManifest
    orRaise done
    let known : List ℕ ← ask .uploaded
    evictGone ((known.filter fun n => n ∉ current).insertionSort (· ≤ ·))
    return true
  else return false

def removeAll : List ℕ → CdnM Unit
  | [] => return ()
  | n :: rest => do
    let done : Bool ← ask (.removeSegment n)
    orRaise done
    removeAll rest

def evictAll : CdnM Unit := do
  let done : Bool ← ask .deleteManifest
  orRaise done
  let known : List ℕ ← ask .uploaded
  removeAll (known.insertionSort (· ≤ ·))
  ask .clear

/-- Some passes of one publisher, whether they raise or not. -/
def passes : ℕ → CdnM Unit
  | 0 => return ()
  | count + 1 => do
    let _ ← sync.attempt
    passes count

/-- Publishers one after another: each makes its passes and is evicted, as the surge switch does
when a channel goes to the CDN and comes back. -/
def publishers : List ℕ → CdnM Unit
  | [] => return ()
  | count :: rest => do
    ask .create
    passes count
    let _ ← evictAll.attempt
    publishers rest

/-! ## The sink and the CDN -/

/-- The directory. Segments below `done` are finished; `running` says that the next one is being
written. What was written of a segment is kept here also when its file is removed. -/
structure Sink where
  done : ℕ
  running : Bool
  written : ℕ → Content
  files : ℕ → Bool
  playlist : Option (List ℕ)

/-- `seg*.ts`, in order. -/
def Sink.listing (sink : Sink) : List ℕ :=
  (List.range (sink.done + if sink.running then 1 else 0)).filter sink.files

def Sink.last (sink : Sink) (count : ℕ) : List ℕ := List.range' (sink.done - count) count

structure Cdn where
  segments : ℕ → Option Content
  manifest : Option (List ℕ)

/-- The directory, the CDN, `_uploaded`, and the last listing. -/
structure World where
  sink : Sink
  cdn : Cdn
  uploaded : List ℕ
  listed : List ℕ

namespace World

variable (w : World)

/-- What can be answered. Of a file that is not there nothing can be uploaded. The sink writes
to the segment it has begun, rewrites the playlist to finished segments whose files are there,
and removes finished segments older than all the playlist names. -/
def Legal : (o : CdnOp) → o.Res → Prop
  | .isFile, x => x = w.sink.playlist.isSome
  | .glob, x => x = w.sink.listing
  | .uploaded, x => x = w.uploaded
  | .uploadSegment n, x => x = true → w.sink.files n = true
  | .uploadManifest, x => x = true → w.sink.playlist.isSome = true
  | .append _, _ => w.sink.running = true
  | .finish, _ => w.sink.running = true
  | .start, _ => w.sink.running = false
  | .rewrite count, _ => count ≤ w.sink.done ∧ ∀ n ∈ w.sink.last count, w.sink.files n = true
  | .remove n, _ =>
    n < w.sink.done ∧ w.sink.playlist.isSome = true ∧ ∀ m ∈ w.sink.playlist.getD [], n < m
  | _, _ => True

def withSink (sink : Sink) : World := { w with sink := sink }

def after : (o : CdnOp) → o.Res → World
  | .create, _ => { w with uploaded := [], listed := [] }
  | .glob, names => { w with listed := names }
  | .uploadSegment n, true =>
    { w with
      cdn := { w.cdn with segments := update w.cdn.segments n (some (w.sink.written n)) }
      uploaded := n :: w.uploaded }
  | .uploadManifest, true => { w with cdn := { w.cdn with manifest := w.sink.playlist } }
  | .deleteSegment n, true =>
    { w with
      cdn := { w.cdn with segments := update w.cdn.segments n none }
      uploaded := w.uploaded.filter (· ≠ n) }
  | .deleteManifest, true => { w with cdn := { w.cdn with manifest := none } }
  | .removeSegment n, true =>
    { w with cdn := { w.cdn with segments := update w.cdn.segments n none } }
  | .clear, _ => { w with uploaded := [] }
  | .append bytes, _ =>
    w.withSink
      { w.sink with
        written := update w.sink.written w.sink.done (w.sink.written w.sink.done ++ bytes) }
  | .finish, _ => w.withSink { w.sink with done := w.sink.done + 1, running := false }
  | .start, _ =>
    w.withSink
      { w.sink with running := true, files := update w.sink.files w.sink.done true }
  | .rewrite count, _ => w.withSink { w.sink with playlist := some (w.sink.last count) }
  | .remove n, _ => w.withSink { w.sink with files := update w.sink.files n false }
  | _, _ => w

def machine : Machine cdnIface World where
  pre := fun _ _ => True
  legal := Legal
  next := after

/-- A segment is finished when it is uploaded, and the playlist, when it is uploaded, names only
segments of the listing. -/
def Settled : (o : CdnOp) → o.Res → Prop
  | .uploadSegment n, x => x = true → n < w.sink.done
  | .uploadManifest, x => x = true → ∀ n ∈ w.sink.playlist.getD [], n ∈ w.listed
  | _, _ => True

/-- The machine for the interleavings that are settled. -/
def settledMachine : Machine cdnIface World where
  pre := fun _ _ => True
  legal := fun w o x => w.Legal o x ∧ w.Settled o x
  next := after

/-- The segment is on the CDN with its complete final content. -/
def Complete (n : ℕ) : Prop :=
  n < w.sink.done ∧ w.cdn.segments n = some (w.sink.written n)

/-- Every segment that the playlist on the CDN names is there, complete. -/
def PlaylistComplete : Prop := ∀ names, w.cdn.manifest = some names → ∀ n ∈ names, w.Complete n

end World

inductive Thread where
  | publisher
  | sink
  deriving DecidableEq

/-! ## What a pass relies on -/

/-- What the publisher knows of its own doing: its listing, what it has uploaded, whether the
playlist on the CDN is of this pass, and whether it is withdrawn. -/
structure Ledger where
  listed : List ℕ
  uploaded : List ℕ
  fresh : Bool
  withdrawn : Bool

namespace Ledger

def after (g : Ledger) : (o : CdnOp) → o.Res → Ledger
  | .create, _ => ⟨[], [], false, false⟩
  | .glob, names => { g with listed := names, fresh := false }
  | .uploadSegment n, true => { g with uploaded := n :: g.uploaded }
  | .uploadManifest, true => { g with fresh := true }
  | .deleteSegment n, true => { g with uploaded := g.uploaded.filter (· ≠ n) }
  | .deleteManifest, true => { g with fresh := false, withdrawn := true }
  | .clear, _ => { g with uploaded := [] }
  | _, _ => g

/-- The playlist goes up when all of the listing is up; a segment is deleted when the playlist
is of a listing without it, or withdrawn. -/
def Allows (g : Ledger) : CdnOp → Prop
  | .uploadManifest => g.withdrawn = false ∧ ∀ n ∈ g.listed, n ∈ g.uploaded
  | .deleteSegment n => g.fresh = true ∧ n ∉ g.listed
  | .removeSegment _ => g.withdrawn = true
  | o => o.isSink = false

def Answers (g : Ledger) : (o : CdnOp) → o.Res → Prop
  | .uploaded, names => names = g.uploaded
  | _, _ => True

def contract : Thread → Machine cdnIface Ledger
  | .publisher => ⟨Allows, Answers, after⟩
  | .sink => ⟨fun _ o => o.isSink = true, fun _ _ _ => True, fun g _ _ => g⟩

end Ledger

section Contract

variable {g : Ledger}

abbrev book : Machine cdnIface Ledger := Ledger.contract .publisher

lemma uploadNew_wp {names : List ℕ} (h : g.withdrawn = false) :
    (uploadNew names).wp book (fun r g' => g'.withdrawn = false ∧ (r = .ok () →
      g'.listed = g.listed ∧ (∀ n ∈ g.uploaded, n ∈ g'.uploaded) ∧
        ∀ n ∈ names, n ∈ g'.uploaded)) g := by
  induction names generalizing g with
  | nil => exact ⟨h, fun _ => ⟨rfl, fun _ hn => hn, nofun⟩⟩
  | cons n rest ih =>
    refine ⟨rfl, fun known hknown => ?_⟩
    obtain rfl : known = g.uploaded := hknown
    -- a name that is known stays known
    refine wp_ite (fun hn => ?_) fun _ => ?_
    · refine wp_mono ?_ (ih h)
      rintro r g' ⟨hwithdrawn, hdone⟩
      refine ⟨hwithdrawn, fun hr => ?_⟩
      obtain ⟨hlisted, hkept, hrest⟩ := hdone hr
      exact ⟨hlisted, hkept, forall_mem_cons.mpr ⟨hkept n hn, hrest⟩⟩
    · refine ⟨rfl, fun done _ => ?_⟩
      cases done with
      | false => exact ⟨h, nofun⟩
      | true =>
        refine wp_mono ?_ (ih h)
        rintro r g' ⟨hwithdrawn, hdone⟩
        refine ⟨hwithdrawn, fun hr => ?_⟩
        obtain ⟨hlisted, hkept, hrest⟩ := hdone hr
        refine ⟨hlisted, fun m hm => hkept m (mem_cons_of_mem _ hm), ?_⟩
        exact forall_mem_cons.mpr ⟨hkept n mem_cons_self, hrest⟩

lemma evictGone_wp {names : List ℕ} (h : g.withdrawn = false) (hfresh : g.fresh = true)
    (hgone : ∀ n ∈ names, n ∉ g.listed) :
    (evictGone names).wp book (fun _ g' => g'.withdrawn = false) g := by
  induction names generalizing g with
  | nil => exact h
  | cons n rest ih =>
    obtain ⟨hn, hrest⟩ := forall_mem_cons.mp hgone
    refine ⟨⟨hfresh, hn⟩, fun done _ => ?_⟩
    cases done with
    | false => exact h
    | true => exact ih h hfresh hrest

lemma sync_wp (h : g.withdrawn = false) : sync.wp book (fun _ g' => g'.withdrawn = false) g := by
  refine ⟨rfl, fun there _ => ?_⟩
  cases there with
  | false => exact h
  | true =>
    refine ⟨rfl, fun current _ => ?_⟩
    change (uploadNew current >>= _).wp book _ { g with listed := current, fresh := false }
    refine wp_seq (uploadNew_wp h) ?_ ?_
    · rintro ⟨⟩ g' ⟨hwithdrawn, hdone⟩
      obtain ⟨hlisted, -, hall⟩ := hdone rfl
      refine ⟨⟨hwithdrawn, by rw [hlisted]; exact hall⟩, fun done _ => ?_⟩
      cases done with
      | false => exact hwithdrawn
      | true =>
        refine ⟨rfl, fun known hknown => ?_⟩
        change (evictGone _ >>= _).wp book _ { g' with fresh := true }
        refine wp_seq (evictGone_wp hwithdrawn rfl ?_) ?_ ?_
        · intro n hn
          have hn := (mem_filter.mp ((mem_insertionSort _).mp hn)).2
          simp only [hlisted]
          simpa using hn
        · exact fun _ _ hafter => hafter
        · exact fun _ _ hafter => hafter
    · exact fun _ _ hafter => hafter.1

lemma removeAll_wp {names : List ℕ} (h : g.withdrawn = true) :
    (removeAll names).wp book (fun _ g' => g'.withdrawn = true) g := by
  induction names generalizing g with
  | nil => exact h
  | cons n rest ih =>
    refine ⟨h, fun done _ => ?_⟩
    cases done with
    | false => exact h
    | true => exact ih h

lemma evictAll_wp : evictAll.wp book (fun _ _ => True) g := by
  refine ⟨rfl, fun done _ => ?_⟩
  cases done with
  | false => trivial
  | true =>
    refine ⟨rfl, fun known _ => ?_⟩
    change (removeAll _ >>= _).wp book _ { g with fresh := false, withdrawn := true }
    refine wp_seq (removeAll_wp rfl) ?_ ?_
    · exact fun _ _ _ => ⟨rfl, fun _ _ => trivial⟩
    · exact fun _ _ _ => trivial

lemma passes_wp {count : ℕ} (h : g.withdrawn = false) :
    (passes count).wp book (fun _ g' => g'.withdrawn = false) g := by
  induction count generalizing g with
  | zero => exact h
  | succ count ih =>
    have hsync : sync.attempt.wp book (fun _ g' => g'.withdrawn = false) g :=
      wp_attempt.mpr (sync_wp h)
    refine wp_seq hsync ?_ ?_
    · exact fun _ _ hafter => ih hafter
    · exact fun _ _ hafter => hafter

lemma publishers_wp {counts : List ℕ} : (publishers counts).wp book (fun _ _ => True) g := by
  induction counts generalizing g with
  | nil => trivial
  | cons count rest ih =>
    refine ⟨rfl, fun _ _ => ?_⟩
    change (passes count >>= _).wp book _ ⟨[], [], false, false⟩
    refine wp_seq (passes_wp rfl) ?_ (fun _ _ _ => trivial)
    intro _ g' _
    have hevict : evictAll.attempt.wp book (fun _ _ => True) g' :=
      wp_attempt.mpr evictAll_wp
    refine wp_seq hevict ?_ (fun _ _ _ => trivial)
    exact fun _ _ _ => ih

end Contract

/-! ## Every settled interleaving -/

/-- What the publisher knows is so, what it has uploaded is complete, and so is all that the
playlist on the CDN names. -/
structure Agrees (g : Ledger) (w : World) : Prop where
  uploaded : w.uploaded = g.uploaded
  listed : w.listed = g.listed
  complete : g.withdrawn = false → ∀ n ∈ g.uploaded, w.Complete n
  playlist : w.PlaylistComplete
  fresh : g.fresh = true → ∀ names, w.cdn.manifest = some names → ∀ n ∈ names, n ∈ g.listed
  withdrawn : g.withdrawn = true → w.cdn.manifest = none

namespace Agrees

variable {g : Ledger} {w : World}

lemma withSink (h : Agrees g w) {sink : Sink}
    (hkept : ∀ n < w.sink.done, n < sink.done ∧ sink.written n = w.sink.written n) :
    Agrees g (w.withSink sink) := by
  have hcomplete : ∀ n, w.Complete n → (w.withSink sink).Complete n := by
    rintro n ⟨hdone, hcontent⟩
    obtain ⟨hdone', hwritten⟩ := hkept n hdone
    refine ⟨hdone', ?_⟩
    change w.cdn.segments n = some (sink.written n)
    rw [hwritten]
    exact hcontent
  constructor
  · exact h.uploaded
  · exact h.listed
  · exact fun hwithdrawn n hn => hcomplete n (h.complete hwithdrawn n hn)
  · exact fun names hnames n hn => hcomplete n (h.playlist names hnames n hn)
  · exact h.fresh
  · exact h.withdrawn

lemma sink_step (h : Agrees g w) {o : CdnOp} {x : o.Res} (hsink : o.isSink = true) :
    Agrees g (w.after o x) := by
  cases o with
  | append bytes =>
    refine h.withSink fun n hn => ⟨hn, ?_⟩
    exact update_of_ne hn.ne ..
  | finish => exact h.withSink fun n hn => ⟨Nat.lt_succ_of_lt hn, rfl⟩
  | start | rewrite count | remove n => exact h.withSink fun n hn => ⟨hn, rfl⟩
  | _ => cases hsink

lemma complete_upload {n m : ℕ} (hn : n < w.sink.done) (hm : m = n ∨ w.Complete m) :
    (w.after (.uploadSegment n) true).Complete m := by
  by_cases heq : m = n
  · subst heq
    exact ⟨hn, update_self ..⟩
  · obtain ⟨hdone, hcontent⟩ := hm.resolve_left heq
    exact ⟨hdone, (update_of_ne heq ..).trans hcontent⟩

lemma complete_delete {n m : ℕ} (hne : m ≠ n) (hm : w.Complete m) :
    (w.after (.deleteSegment n) true).Complete m :=
  ⟨hm.1, (update_of_ne hne ..).trans hm.2⟩

lemma publisher_step (h : Agrees g w) {o : CdnOp} {x : o.Res} (hallows : g.Allows o)
    (hsettled : w.Settled o x) : Agrees (g.after o x) (w.after o x) := by
  cases o with
  | create =>
    exact { h with
      uploaded := rfl
      listed := rfl
      complete := fun _ n hn => by cases hn
      fresh := fun hfresh => by cases hfresh
      withdrawn := fun hwithdrawn => by cases hwithdrawn }
  | glob => exact { h with listed := rfl, fresh := fun hfresh => by cases hfresh }
  | uploadSegment n =>
    cases x with
    | false => exact h
    | true =>
      have hn : n < w.sink.done := hsettled rfl
      constructor
      · exact congrArg (n :: ·) h.uploaded
      · exact h.listed
      · intro hwithdrawn m hm
        refine complete_upload hn ?_
        rcases mem_cons.mp hm with rfl | hm
        · exact .inl rfl
        · exact .inr (h.complete hwithdrawn m hm)
      · exact fun names hnames m hm => complete_upload hn (.inr (h.playlist names hnames m hm))
      · exact h.fresh
      · exact h.withdrawn
  | uploadManifest =>
    cases x with
    | false => exact h
    | true =>
      obtain ⟨hcurrent, hall⟩ := hallows
      -- the names of the playlist are of the listing, and all of that is uploaded
      have hlisted : ∀ names, w.sink.playlist = some names → ∀ n ∈ names, n ∈ g.listed := by
        intro names hnames n hn
        have hsettled : ∀ n ∈ w.sink.playlist.getD [], n ∈ w.listed := hsettled rfl
        rw [hnames, h.listed] at hsettled
        exact hsettled n hn
      constructor
      · exact h.uploaded
      · exact h.listed
      · exact h.complete
      · exact fun names hnames n hn => h.complete hcurrent n (hall n (hlisted names hnames n hn))
      · exact fun _ => hlisted
      · intro hwithdrawn
        cases hcurrent.symm.trans hwithdrawn
  | deleteSegment n =>
    cases x with
    | false => exact h
    | true =>
      obtain ⟨hfresh, hgone⟩ := hallows
      constructor
      · exact congrArg (filter (· ≠ n)) h.uploaded
      · exact h.listed
      · intro hwithdrawn m hm
        obtain ⟨hm, hne⟩ := mem_filter.mp hm
        exact complete_delete (by simpa using hne) (h.complete hwithdrawn m hm)
      · intro names hnames m hm
        refine complete_delete ?_ (h.playlist names hnames m hm)
        rintro rfl
        exact hgone (h.fresh hfresh names hnames m hm)
      · exact h.fresh
      · exact h.withdrawn
  | deleteManifest =>
    cases x with
    | false => exact h
    | true =>
      constructor
      · exact h.uploaded
      · exact h.listed
      · intro hwithdrawn
        cases hwithdrawn
      · intro names hnames
        cases hnames
      · intro hfresh
        cases hfresh
      · exact fun _ => rfl
  | removeSegment n =>
    cases x with
    | false => exact h
    | true =>
      have hgone : w.cdn.manifest = none := h.withdrawn hallows
      constructor
      · exact h.uploaded
      · exact h.listed
      · intro hwithdrawn
        cases hwithdrawn.symm.trans hallows
      · intro names hnames
        cases hgone.symm.trans hnames
      · exact h.fresh
      · exact h.withdrawn
  | clear =>
    exact { h with uploaded := rfl, complete := fun _ n hn => by cases hn }
  | isFile | uploaded => exact h
  | _ => cases hallows

end Agrees

lemma Agrees.answers {g : Ledger} {w : World} (h : Agrees g w) {o : CdnOp} {x : o.Res}
    (hlegal : w.Legal o x) : g.Answers o x := by
  cases o with
  | uploaded => exact Eq.trans hlegal h.uploaded
  | _ => trivial

lemma feed_wp {feed : CdnM Unit} {g : Ledger}
    (h : feed.Uses (fun o : CdnOp => o.isSink = true) fun _ => True) :
    feed.wp (Ledger.contract .sink) (fun _ _ => True) g := by
  induction feed with
  | ret a | raise e => trivial
  | call o k ih => exact ⟨h.1, fun x _ => ih x (h.2 x)⟩

/-- A publisher at work beside a sink: any code that makes the calls of a sink. -/
def live (counts : List ℕ) (feed : CdnM Unit) (w : World) :
    Config Thread cdnIface CdnError Ledger World where
  code
    | .publisher => publishers counts
    | .sink => feed
  ghost _ := ⟨w.listed, w.uploaded, false, true⟩
  world := w

/-- What the two threads reach, call by call. -/
abbrev Run (M : Machine cdnIface World) (c₀ c : Config Thread cdnIface CdnError Ledger World) :
    Prop :=
  Config.Reach (fun _ => M) (fun t => (Ledger.contract t).toMonitor) (fun _ _ => True) c₀ c

/-- In every settled interleaving, from a CDN without a playlist: at every moment the playlist on
the CDN names only segments that are there, complete. -/
theorem playlist_complete {counts : List ℕ} {feed : CdnM Unit} {w : World}
    (hfeed : feed.Uses (fun o : CdnOp => o.isSink = true) fun _ => True)
    (hempty : w.cdn.manifest = none)
    {c : Config Thread cdnIface CdnError Ledger World}
    (h : Run World.settledMachine (live counts feed w) c) : c.world.PlaylistComplete := by
  have hcontract := h.contract (Q := fun _ _ _ => True) (J := fun g w => Agrees (g .publisher) w)
    ?_ ?_ ?_
  · exact hcontract.2.playlist
  · intro t
    cases t with
    | publisher => exact publishers_wp
    | sink => exact feed_wp hfeed
  · constructor
    · rfl
    · rfl
    · intro hcurrent
      cases hcurrent
    · intro names hnames
      cases hempty.symm.trans hnames
    · intro hfresh
      cases hfresh
    · exact fun _ => hempty
  · -- each call keeps what the publisher's ledger says of the world
    intro g w t o x hagrees _ hpre hlegal
    cases t with
    | publisher =>
      refine ⟨hagrees.answers hlegal.1, ?_⟩
      rw [update_self]
      exact hagrees.publisher_step hpre hlegal.2
    | sink =>
      refine ⟨trivial, ?_⟩
      rw [update_of_ne (by decide)]
      exact hagrees.sink_step hpre

/-! ## The playlist is rewritten under a pass -/

/-- Nothing written, nothing uploaded. -/
def World.bare : World where
  sink := ⟨0, false, fun _ => [], fun _ => false, none⟩
  cdn := ⟨fun _ => none, none⟩
  uploaded := []
  listed := []

/-- A sink that writes one segment after another, and names all of them. -/
def twoSegments : CdnM Unit := do
  ask .start
  ask (.append [1])
  ask .finish
  ask (.rewrite 1)
  ask .start
  ask (.append [2])
  ask .finish
  ask (.rewrite 2)

lemma twoSegments_uses : twoSegments.Uses (fun o : CdnOp => o.isSink = true) fun _ => True :=
  ⟨rfl, fun _ => ⟨rfl, fun _ => ⟨rfl, fun _ => ⟨rfl, fun _ => ⟨rfl, fun _ => ⟨rfl, fun _ =>
    ⟨rfl, fun _ => ⟨rfl, fun _ => trivial⟩⟩⟩⟩⟩⟩⟩⟩

lemma World.legal_rewrite {w : World} {count : ℕ}
    (h : (decide (count ≤ w.sink.done) && (w.sink.last count).all w.sink.files) = true) :
    w.Legal (.rewrite count) () := by
  simpa [World.Legal] using h

lemma Run.call {M : Machine cdnIface World} {c₀ c : Config Thread cdnIface CdnError Ledger World}
    (h : Run M c₀ c) (t : Thread) (o : CdnOp) (x : o.Res) {k : o.Res → CdnM Unit}
    (hcode : c.code t = .call o k) (hx : M.legal c.world o x) :
    Run M c₀ (c.advance (fun _ => M) (fun t => (Ledger.contract t).toMonitor) t o x (k x)) :=
  Config.Reach.step h hcode trivial x hx

/-- The pass begins when the first segment is finished and named, and ends before the second. -/
theorem first_segment_complete :
    ∃ c, Run World.settledMachine (live [1] twoSegments .bare) c ∧
      c.world.cdn.manifest = some [0] ∧ c.world.PlaylistComplete := by
  have hstart : Run World.settledMachine (live [1] twoSegments .bare)
      (live [1] twoSegments .bare) := .refl
  have h₁ := Run.call hstart .sink .start () rfl ⟨rfl, trivial⟩
  have h₂ := Run.call h₁ .sink (.append [1]) () rfl ⟨rfl, trivial⟩
  have h₃ := Run.call h₂ .sink .finish () rfl ⟨rfl, trivial⟩
  have h₄ := Run.call h₃ .sink (.rewrite 1) () rfl ⟨World.legal_rewrite rfl, trivial⟩
  have h₅ := Run.call h₄ .publisher .create () rfl ⟨trivial, trivial⟩
  have h₆ := Run.call h₅ .publisher .isFile true rfl ⟨rfl, trivial⟩
  have h₇ := Run.call h₆ .publisher .glob [0] rfl ⟨rfl, trivial⟩
  have h₈ := Run.call h₇ .publisher .uploaded [] rfl ⟨rfl, trivial⟩
  have h₉ := Run.call h₈ .publisher (.uploadSegment 0) true rfl ⟨fun _ => rfl, fun _ => by decide⟩
  have hlast := Run.call h₉ .publisher .uploadManifest true rfl ⟨fun _ => rfl, fun _ => by decide⟩
  exact ⟨_, hlast, rfl, playlist_complete twoSegments_uses rfl hlast⟩

/-- The sink finishes and names the second segment while the pass uploads the first. -/
theorem second_segment_missing :
    ∃ c, Run World.machine (live [1] twoSegments .bare) c ∧ ¬ c.world.PlaylistComplete := by
  have hstart : Run World.machine (live [1] twoSegments .bare) (live [1] twoSegments .bare) := .refl
  have h₁ := Run.call hstart .sink .start () rfl rfl
  have h₂ := Run.call h₁ .sink (.append [1]) () rfl rfl
  have h₃ := Run.call h₂ .sink .finish () rfl rfl
  have h₄ := Run.call h₃ .sink (.rewrite 1) () rfl (World.legal_rewrite rfl)
  have h₅ := Run.call h₄ .publisher .create () rfl trivial
  have h₆ := Run.call h₅ .publisher .isFile true rfl rfl
  have h₇ := Run.call h₆ .publisher .glob [0] rfl rfl
  have h₈ := Run.call h₇ .publisher .uploaded [] rfl rfl
  have h₉ := Run.call h₈ .publisher (.uploadSegment 0) true rfl fun _ => rfl
  have h₁₀ := Run.call h₉ .sink .start () rfl rfl
  have h₁₁ := Run.call h₁₀ .sink (.append [2]) () rfl rfl
  have h₁₂ := Run.call h₁₁ .sink .finish () rfl rfl
  have h₁₃ := Run.call h₁₂ .sink (.rewrite 2) () rfl (World.legal_rewrite rfl)
  have hlast := Run.call h₁₃ .publisher .uploadManifest true rfl fun _ => rfl
  refine ⟨_, hlast, fun hcomplete => ?_⟩
  have hsecond := (hcomplete [0, 1] rfl 1 (by decide)).2
  cases hsecond

end CivicCast.Live
