import CivicCast.Publish.Concurrent

/-!
# Simulated notices

`deliver_publication_notifications` reads the rows of a publication back after the fan-out and
asks the registry which of the channels in use have the shipped mock for a provider. It takes the
channels in use from the summary's row list, which puts the rows that need attention first and is
cut at `NOTIFICATION_SUMMARY_MAX_DELIVERIES`. A mock that took notices is overlooked where all the
rows of its channel are cut off (`mock_overlooked`); `simulated_shown_iff` says exactly when it
is not.
-/

namespace CivicCast.Publish.Notices

open Lib Concurrent List

inductive Channel where
  | email | webhook
  deriving DecidableEq

/-- A row of the summary, as far as the surface reads it. -/
structure DeliveryRow where
  subscriptionId : Text
  channel : Channel
  outcome : DeliveryOutcome
  deriving DecidableEq

structure DeliveryRecord extends DeliveryRow where
  deliveryKey : Text
  deriving DecidableEq

/-- The stored rows of a publication; `delivery_key` is their primary key. -/
structure Deliveries where
  records : List DeliveryRecord
  nodup : (records.map DeliveryRecord.deliveryKey).Nodup

def maxDeliveries : ℕ := 200

/-- The sort key of the row list: `(row.outcome == "sent", row.subscription_id)`. -/
def DeliveryRow.attention (row : DeliveryRow) : Bool ×ₗ Text :=
  toLex (row.outcome = .sent, row.subscriptionId)

/-- `summary.deliveries`. -/
def deliveries (records : List DeliveryRecord) : List DeliveryRow :=
  (((records.mergeSort fun a b => a.deliveryKey ≤ b.deliveryKey).map
    DeliveryRecord.toDeliveryRow).mergeSort fun a b => a.attention ≤ b.attention).take maxDeliveries

/-- One call: the address and the providers that it resolves, and what the fan-out left. -/
structure Call where
  /-- Whether there is a subscriber store. -/
  subscribers : Bool
  publicationId : Text
  /-- The asset's id, quoted for a URL. -/
  quotedId : Text
  publicBaseUrl : Option Text
  manifestUrl : Option Text
  /-- `selected_provider_name` of the channel's provider kind. -/
  selectedProviderName : Channel → Text
  claimFailures : ℕ
  stored : Deliveries

def watchUrlForAsset (quotedId : Text) (base : Option Text) : Option Text :=
  match base with
  | none | some [] => none
  | some base => some (base.rdropWhile (· = '/') ++ "/#/watch/".toList ++ quotedId)

namespace Call

variable (call : Call)

/-- The link of `build_notification_payload`; without one there is no notice. -/
def portalUrl : Option Text :=
  ((watchUrlForAsset call.quotedId call.publicBaseUrl).or call.manifestUrl).filter (· ≠ [])

/-- `describe_provider(kinds[channel], registry).simulated`. -/
def simulated (channel : Channel) : Bool := call.selectedProviderName channel = "mock".toList

def simulatedChannels : Bool :=
  (deliveries call.stored.records).any fun row => call.simulated row.channel

def summary : NotificationSummary :=
  summarizeOutcomes (call.stored.records.map fun record => record.outcome) call.publicationId

def deliverPublicationNotifications : NotificationOutcome :=
  let summary := call.summary
  let kept := if summary.intended = 0 then none else some summary
  if !call.subscribers then
    { state := .notConfigured
      health := .unknown
      message := "The subscriber store is unavailable, so no notices were sent.".toList
      nextStep := ("Open Setup and choose Prepare storage so subscriptions and delivery " ++
        "receipts can be kept.").toList
      simulated := false
      summary := none }
  else if call.portalUrl = none then
    { state := .notConfigured
      health := .unknown
      message := ("Subscriber notices were not sent: this station has no public web " ++
        "address, so the notice would have no link to open.").toList
      nextStep := ("Set the station's public web address in Setup, then retry the " ++
        "subscriber notifications surface.").toList
      simulated := false
      summary := none }
  else if call.claimFailures ≠ 0 then
    { state := .failed
      health := .warning
      message := ("Delivery receipts could not be written, so no notices were sent. " ++
        "Fix the database and retry.").toList
      nextStep := ("Open Setup and check durable storage, then retry the subscriber " ++
        "notifications surface.").toList
      simulated := false
      summary := kept }
  else
    let state := stateFor summary
    let copy := stateCopy summary state
    -- a mock took the notices: never green
    let shown := call.simulatedChannels && state ≠ .notConfigured
    { state := state.surfaceState
      health := if shown then .warning else copy.1
      message :=
        if shown then
          "SIMULATED - no subscriber notice actually left this station. ".toList ++ copy.2.1 ++
            (" An admin must enable the real mail/webhook provider before this counts " ++
              "as delivery.").toList
        else copy.2.1
      nextStep :=
        if shown then
          ("Ask an admin to set CIVICCAST_PROVIDER_MAIL / CIVICCAST_PROVIDER_WEBHOOK " ++
            "to a real provider, then retry this surface.").toList
        else copy.2.2
      simulated := call.simulatedChannels
      summary := kept }

end Call

/-! ## The cut of the row list -/

section Sorted

variable {α β γ : Type}

lemma mem_take_of_pairwise {lt : α → α → Prop} [DecidableRel lt] (hasymm : ∀ a b, lt a b → ¬lt b a)
    {l : List α} (h : l.Pairwise lt) {n : ℕ} {x : α} :
    x ∈ l.take n ↔ x ∈ l ∧ l.countP (fun y => lt y x) < n := by
  induction l generalizing n with
  | nil => simp
  | cons a t ih =>
    obtain ⟨ha, ht⟩ := pairwise_cons.mp h
    cases n with
    | zero => simp
    | succ n =>
      have hirrefl : ¬lt a a := fun hlt => hasymm a a hlt hlt
      rw [take_succ_cons, mem_cons, mem_cons, countP_cons, ih ht]
      by_cases hx : x = a
      · subst hx
        -- nothing of the tail comes before the head
        have hnone : t.countP (fun y => lt y x) = 0 :=
          countP_eq_zero.mpr fun y hy => by simpa using hasymm _ _ (ha y hy)
        simp [hnone, hirrefl]
      · simp only [hx, false_or]
        refine and_congr_right fun hmem => ?_
        simp [ha x hmem]

lemma pairwise_sorted [LinearOrder β] (f : α → β) (l : List α) :
    (l.mergeSort fun a b => f a ≤ f b).Pairwise fun a b => f a ≤ f b := by
  refine (pairwise_mergeSort ?_ ?_ l).imp of_decide_eq_true
  · exact fun a b c hab hbc =>
      decide_eq_true ((of_decide_eq_true hab).trans (of_decide_eq_true hbc))
  · exact fun a b => by simpa using le_total (f a) (f b)

/-- Sorting by a second key after a first one sorts by the pair of them. -/
lemma pairwise_sorted_sorted [LinearOrder β] [LinearOrder γ] {l : List α} {f : α → β} {g : α → γ}
    (hnodup : (l.map g).Nodup) :
    ((l.mergeSort fun a b => g a ≤ g b).mergeSort fun a b => f a ≤ f b).Pairwise fun a b =>
      toLex (f a, g a) < toLex (f b, g b) := by
  set first := l.mergeSort fun a b => g a ≤ g b
  set second := first.mergeSort fun a b => f a ≤ f b
  have hg : first.Pairwise fun a b => g a < g b := by
    have hne : (first.map g).Nodup := ((mergeSort_perm l _).map g).nodup_iff.mpr hnodup
    exact ((pairwise_sorted g l).and (pairwise_map.mp hne)).imp fun h => lt_of_le_of_ne h.1 h.2
  -- the sort is stable: of equal keys it keeps the order that it found
  have hkept (v : β) : second.filter (f · = v) = first.filter (f · = v) := by
    have hsub : (first.filter (f · = v)).Sublist second := by
      refine sublist_mergeSort ?_ ?_ ?_ filter_sublist
      · exact fun a b c hab hbc =>
          decide_eq_true ((of_decide_eq_true hab).trans (of_decide_eq_true hbc))
      · exact fun a b => by simpa using le_total (f a) (f b)
      · refine pairwise_filter.mpr (pairwise_of_forall fun a b ha hb => ?_)
        rw [of_decide_eq_true ha, of_decide_eq_true hb]
        exact decide_eq_true le_rfl
    have hsub' := hsub.filter (f · = v)
    rw [filter_filter] at hsub'
    simp only [Bool.and_self] at hsub'
    exact (hsub'.eq_of_length ((mergeSort_perm first _).filter _).length_eq.symm).symm
  refine pairwise_iff_forall_sublist.mpr fun {a b} hab => Prod.Lex.toLex_lt_toLex.mpr ?_
  rcases (pairwise_iff_forall_sublist.mp (pairwise_sorted f first) hab).lt_or_eq with hlt | heq
  · exact .inl hlt
  · refine .inr ⟨heq, pairwise_iff_forall_sublist.mp hg ?_⟩
    have hab' : [a, b].Sublist (second.filter (f · = f b)) := by
      simpa [heq] using hab.filter (f · = f b)
    rw [hkept] at hab'
    exact hab'.trans filter_sublist

end Sorted

/-- Where a record stands in the row list; records of one subscription go by their keys. -/
def DeliveryRecord.place (record : DeliveryRecord) : (Bool ×ₗ Text) ×ₗ Text :=
  toLex (record.attention, record.deliveryKey)

/-- The records that the row list puts before this one. -/
def Deliveries.before (stored : Deliveries) (record : DeliveryRecord) : ℕ :=
  stored.records.countP fun other => other.place < record.place

lemma mem_deliveries (stored : Deliveries) (row : DeliveryRow) :
    row ∈ deliveries stored.records ↔
      ∃ record ∈ stored.records, record.toDeliveryRow = row ∧
        stored.before record < maxDeliveries := by
  let sorted := (stored.records.mergeSort fun a b => a.deliveryKey ≤ b.deliveryKey).mergeSort
    fun a b => a.attention ≤ b.attention
  have hperm : sorted.Perm stored.records := (mergeSort_perm _ _).trans (mergeSort_perm _ _)
  have hsorted : sorted.Pairwise fun a b => a.place < b.place := pairwise_sorted_sorted stored.nodup
  have hrows : deliveries stored.records =
      (sorted.take maxDeliveries).map DeliveryRecord.toDeliveryRow := by
    rw [deliveries, map_take]
    exact congrArg (take maxDeliveries) (map_mergeSort
      (r := fun a b : DeliveryRecord => a.attention ≤ b.attention)
      (s := fun a b : DeliveryRow => a.attention ≤ b.attention) fun _ _ _ _ => rfl).symm
  rw [hrows, mem_map]
  refine exists_congr fun record => ?_
  rw [mem_take_of_pairwise (fun _ _ => lt_asymm) hsorted, hperm.mem_iff, hperm.countP_eq]
  exact ⟨fun h => ⟨h.1.1, h.2, h.1.2⟩, fun h => ⟨⟨h.1, h.2.2⟩, h.2.1⟩⟩

namespace Call

lemma simulatedChannels_iff {call : Call} : call.simulatedChannels = true ↔
    ∃ record ∈ call.stored.records, call.simulated record.channel = true ∧
      call.stored.before record < maxDeliveries := by
  simp only [simulatedChannels, any_eq_true, mem_deliveries]
  constructor
  · rintro ⟨_, ⟨record, hmem, rfl, hbefore⟩, hsimulated⟩
    exact ⟨record, hmem, hsimulated, hbefore⟩
  · rintro ⟨record, hmem, hsimulated, hbefore⟩
    exact ⟨_, ⟨record, hmem, rfl, hbefore⟩, hsimulated⟩

lemma stateFor_ne_notConfigured {call : Call} (h : call.stored.records ≠ []) :
    stateFor call.summary ≠ .notConfigured := by
  have hpos : call.summary.intended ≠ 0 := by
    simpa [summary, summarizeOutcomes] using h
  unfold stateFor
  split_ifs <;> simp_all

lemma shown_iff {call : Call} (hclaims : call.claimFailures = 0)
    (hstored : call.stored.records ≠ []) :
    (call.deliverPublicationNotifications.simulated = true ∧
        call.deliverPublicationNotifications.health ≠ .ok) ↔
      call.subscribers = true ∧ call.portalUrl ≠ none ∧ call.simulatedChannels = true := by
  have hstate := stateFor_ne_notConfigured hstored
  unfold deliverPublicationNotifications
  cases hstore : call.subscribers
  · exact iff_of_false (fun h => Bool.false_ne_true h.1) (fun h => Bool.false_ne_true h.1)
  by_cases hurl : call.portalUrl = none
  · rw [if_neg (by decide), if_pos hurl]
    exact iff_of_false (fun h => Bool.false_ne_true h.1) (fun h => h.2.1 hurl)
  rw [if_neg (by decide), if_neg hurl, if_neg (not_not.mpr hclaims)]
  refine ⟨fun h => ⟨rfl, hurl, h.1⟩, fun h => ⟨h.2.2, ?_⟩⟩
  dsimp only
  rw [if_pos (by rw [h.2.2]; simpa using hstate)]
  decide

/-- A run that kept all its receipts, one of them for a notice that a mock took, shows it exactly
when there was a store and a link and some record of a channel with a mock is listed. -/
theorem simulated_shown_iff (call : Call) (hclaims : call.claimFailures = 0)
    (hsent : ∃ record ∈ call.stored.records,
      record.outcome = .sent ∧ call.simulated record.channel = true) :
    (call.deliverPublicationNotifications.simulated = true ∧
        call.deliverPublicationNotifications.health ≠ .ok) ↔
      call.subscribers = true ∧ call.portalUrl ≠ none ∧
        ∃ record ∈ call.stored.records, call.simulated record.channel = true ∧
          call.stored.before record < maxDeliveries := by
  obtain ⟨_, hmem, -⟩ := hsent
  rw [shown_iff hclaims (ne_nil_of_mem hmem), simulatedChannels_iff]

end Call

/-- A record of subscription `n`. -/
def rowOf (channel : Channel) (outcome : DeliveryOutcome) (n : ℕ) : DeliveryRecord where
  subscriptionId := List.replicate (n + 1) 's'
  channel := channel
  outcome := outcome
  deliveryKey := List.replicate (n + 1) 'k'

/-- A webhook mock took a notice, and the real mail provider took none of the first `n`. -/
def mixed (n : ℕ) : Call where
  subscribers := true
  publicationId := ['p']
  quotedId := ['a']
  publicBaseUrl := some "https://station".toList
  manifestUrl := none
  selectedProviderName
    | .email => "real".toList
    | .webhook => "mock".toList
  claimFailures := 0
  stored :=
    { records := rowOf .webhook .sent n :: (List.range n).map (rowOf .email .failed)
      nodup := by
        have hinj : Function.Injective fun n => (rowOf .email .failed n).deliveryKey :=
          fun a b h => by simpa [rowOf] using congrArg List.length h
        have hkey : (rowOf .webhook .sent n).deliveryKey = (rowOf .email .failed n).deliveryKey :=
          rfl
        rw [List.map_cons, List.map_map, hkey]
        refine List.nodup_cons.mpr ⟨?_, List.Pairwise.map _ (fun _ _ => hinj.ne) List.nodup_range⟩
        intro h
        obtain ⟨m, hm, heq⟩ := List.mem_map.mp h
        exact (List.mem_range.mp hm).ne (hinj heq) }

theorem mixed_shown :
    (mixed 1).deliverPublicationNotifications.simulated = true ∧
      (mixed 1).deliverPublicationNotifications.health ≠ .ok :=
  ((mixed 1).simulated_shown_iff rfl ⟨_, mem_cons_self, rfl, by decide⟩).mpr
    ⟨rfl, by decide, _, mem_cons_self, by decide, by decide⟩

lemma mixed_before (n : ℕ) : n ≤ (mixed n).stored.before (rowOf .webhook .sent n) := by
  have hall : ∀ other ∈ (range n).map (rowOf .email .failed),
      decide (other.place < (rowOf .webhook .sent n).place) = true := by
    intro other hother
    obtain ⟨m, -, rfl⟩ := mem_map.mp hother
    exact decide_eq_true (Prod.Lex.toLex_lt_toLex.mpr
      (.inl (Prod.Lex.toLex_lt_toLex.mpr (.inl rfl))))
  have hle := (sublist_cons_self (rowOf .webhook .sent n)
    ((range n).map (rowOf .email .failed))).countP_le
    (p := fun other => other.place < (rowOf .webhook .sent n).place)
  rwa [countP_eq_length.mpr hall, length_map, length_range] at hle

lemma mixed_listed {n : ℕ} (h : (mixed n).simulatedChannels = true) : n < maxDeliveries := by
  obtain ⟨record, hmem, hsimulated, hbefore⟩ := (Call.simulatedChannels_iff).mp h
  rcases mem_cons.mp hmem with rfl | hmem
  · exact (mixed_before n).trans_lt hbefore
  · obtain ⟨m, -, rfl⟩ := mem_map.mp hmem
    exact absurd hsimulated Bool.false_ne_true

/-- Two hundred mail failures are listed before it, and the mock's notice reads as delivered. -/
theorem mock_overlooked :
    ¬∀ call : Call, call.claimFailures = 0 →
      (∃ record ∈ call.stored.records,
        record.outcome = .sent ∧ call.simulated record.channel = true) →
      call.deliverPublicationNotifications.simulated = true ∧
        call.deliverPublicationNotifications.health ≠ .ok := by
  intro h
  have hshown := h (mixed 200) rfl ⟨_, mem_cons_self, rfl, rfl⟩
  rw [Call.shown_iff rfl (cons_ne_nil _ _)] at hshown
  exact lt_irrefl 200 (mixed_listed hshown.2.2)

end CivicCast.Publish.Notices
