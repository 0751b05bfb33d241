/-
This file tells what a snapshot says about a datacenter from what the polls of that
datacenter have brought, and from nothing else. The program builds each snapshot
from the one before, so what it shows after a row of failures has been handed on
from snapshot to snapshot. Here the same is read off the whole history at once:
the last poll decides the status, and the data are those of the most recent poll
that got through, or none where data of failed datacenters are dropped.
-/

import FleetView.Proofs.Registry
import FleetView.Proofs.Repeats
import FleetView.Proofs.Replies
import FleetView.Proofs.Run

namespace FleetView

namespace Datacenter

/-- What the poll of the datacenter in a cycle brings, or why it fails. -/
def polled (datacenter : Datacenter) (policy : Policy) (cycle : Cycle) : Except String Fetched :=
  (datacenter.backend policy).poll (cycle.networks datacenter.name)

/-- What the most recent poll that got through has brought. -/
def lastFetched? (datacenter : Datacenter) (policy : Policy) (cycles : List Cycle) :
    Option Fetched :=
  cycles.reverse.findSome? fun cycle => (datacenter.polled policy cycle).toOption

/-- The objects of the most recent poll that got through; none before the first one. -/
def lastKnown (datacenter : Datacenter) (policy : Policy) (cycles : List Cycle) : Collections :=
  ((datacenter.lastFetched? policy cycles).map (Collections.ofFetched datacenter.name)).getD
    Collections.empty

/-- The slice of the datacenter after a cycle that follows some earlier ones. -/
def sliceAfter (datacenter : Datacenter) (policy : Policy) (earlier : List Cycle)
    (last : Cycle) : Slice :=
  match datacenter.polled policy last with
  | .ok fetched =>
    ⟨Status.reachable datacenter.name last.ended, Collections.ofFetched datacenter.name fetched⟩
  | .error reason =>
    ⟨Status.unreachable datacenter.name reason last.ended,
      if policy.retainStaleData then datacenter.lastKnown policy earlier else Collections.empty⟩

/-- The slice of the datacenter as a history of cycles leaves it. -/
def recounted (datacenter : Datacenter) (policy : Policy) (cycles : List Cycle) : Slice :=
  match cycles.getLast? with
  | none => ⟨Status.unknown datacenter.name, Collections.empty⟩
  | some last => datacenter.sliceAfter policy cycles.dropLast last

variable (datacenter : Datacenter) (policy : Policy)

theorem recounted_concat (earlier : List Cycle) (last : Cycle) :
    datacenter.recounted policy (earlier ++ [last]) =
      datacenter.sliceAfter policy earlier last := by
  rw [recounted, List.getLast?_concat, List.dropLast_concat]

theorem recounted_name (cycles : List Cycle) :
    (datacenter.recounted policy cycles).status.name = datacenter.name := by
  unfold recounted sliceAfter
  split
  · rfl
  · split <;> rfl

/-! ### The most recent poll that got through -/

theorem lastKnown_concat_ok {earlier : List Cycle} {last : Cycle} {fetched : Fetched}
    (brought : datacenter.polled policy last = .ok fetched) :
    datacenter.lastKnown policy (earlier ++ [last]) =
      Collections.ofFetched datacenter.name fetched := by
  rw [lastKnown, lastFetched?, List.reverse_concat, List.findSome?_cons, brought]
  rfl

theorem lastKnown_concat_error {earlier : List Cycle} {last : Cycle} {reason : String}
    (failed : datacenter.polled policy last = .error reason) :
    datacenter.lastKnown policy (earlier ++ [last]) = datacenter.lastKnown policy earlier := by
  rw [lastKnown, lastFetched?, List.reverse_concat, List.findSome?_cons, failed]
  rfl

/-- Failures after a poll that got through leave what it has brought. -/
theorem lastKnown_of_failures {earlier later : List Cycle} {good : Cycle} {fetched : Fetched}
    (brought : datacenter.polled policy good = .ok fetched)
    (failures : ∀ cycle ∈ later, ∃ reason, datacenter.polled policy cycle = .error reason) :
    datacenter.lastKnown policy (earlier ++ good :: later) =
      Collections.ofFetched datacenter.name fetched := by
  induction later using List.reverseRecOn with
  | nil => exact lastKnown_concat_ok datacenter policy brought
  | append_singleton between last inductionHypothesis =>
    obtain ⟨reason, failed⟩ := failures last (List.mem_append_right _ List.mem_cons_self)
    rw [← List.cons_append, ← List.append_assoc, lastKnown_concat_error datacenter policy failed]
    exact inductionHypothesis fun cycle member => failures cycle (List.mem_append_left _ member)

/-- Failures alone leave nothing. -/
theorem lastKnown_of_only_failures {cycles : List Cycle}
    (failures : ∀ cycle ∈ cycles, ∃ reason, datacenter.polled policy cycle = .error reason) :
    datacenter.lastKnown policy cycles = Collections.empty := by
  induction cycles using List.reverseRecOn with
  | nil => rfl
  | append_singleton earlier last inductionHypothesis =>
    obtain ⟨reason, failed⟩ := failures last (List.mem_append_right _ List.mem_cons_self)
    rw [lastKnown_concat_error datacenter policy failed]
    exact inductionHypothesis fun cycle member => failures cycle (List.mem_append_left _ member)

/-- Where data are kept, the data that a history leaves are always those of the most recent poll
that got through. -/
theorem recounted_data_of_retain (retain : policy.retainStaleData = true) (cycles : List Cycle) :
    (datacenter.recounted policy cycles).data = datacenter.lastKnown policy cycles := by
  induction cycles using List.reverseRecOn with
  | nil => rfl
  | append_singleton earlier last _ =>
    rw [recounted_concat, sliceAfter]
    cases brought : datacenter.polled policy last with
    | ok fetched => rw [lastKnown_concat_ok datacenter policy brought]
    | error reason =>
      rw [lastKnown_concat_error datacenter policy brought]
      exact if_pos retain

/-- Whatever a history leaves has come from one of its polls that got through, or is nothing. -/
theorem recounted_data (cycles : List Cycle) :
    (datacenter.recounted policy cycles).data = Collections.empty ∨
      ∃ cycle ∈ cycles, ∃ fetched, datacenter.polled policy cycle = .ok fetched ∧
        (datacenter.recounted policy cycles).data =
          Collections.ofFetched datacenter.name fetched := by
  by_cases retain : policy.retainStaleData = true
  · rw [recounted_data_of_retain datacenter policy retain, lastKnown, lastFetched?]
    cases found : cycles.reverse.findSome? fun cycle =>
        (datacenter.polled policy cycle).toOption with
    | none => exact Or.inl rfl
    | some fetched =>
      obtain ⟨cycle, member, brought⟩ := List.exists_of_findSome?_eq_some found
      exact Or.inr ⟨cycle, List.mem_reverse.mp member, fetched,
        eq_ok_of_toOption_eq_some brought, rfl⟩
  · rcases List.eq_nil_or_concat' cycles with rfl | ⟨earlier, last, rfl⟩
    · exact Or.inl rfl
    · rw [recounted_concat, sliceAfter]
      cases brought : datacenter.polled policy last with
      | ok fetched =>
        exact Or.inr ⟨last, List.mem_append_right _ List.mem_cons_self, fetched, brought, rfl⟩
      | error reason => exact Or.inl (if_neg retain)

/-! ### The datacenter's own answers -/

/-- Two cycles that end at the same time and answer the datacenter's own requests alike. -/
def AnsweredAlike (one other : Cycle) : Prop :=
  one.ended = other.ended ∧
    ∀ request ∈ (datacenter.backend policy).connection.fetchRequests,
      one.networks datacenter.name request = other.networks datacenter.name request

theorem polled_congr {one other : Cycle} (alike : datacenter.AnsweredAlike policy one other) :
    datacenter.polled policy one = datacenter.polled policy other :=
  Backend.poll_congr _ alike.2

theorem findSome?_polled_congr {cycles others : List Cycle}
    (alike : List.Forall₂ (datacenter.AnsweredAlike policy) cycles others) :
    (cycles.findSome? fun cycle => (datacenter.polled policy cycle).toOption) =
      others.findSome? fun cycle => (datacenter.polled policy cycle).toOption := by
  induction alike with
  | nil => rfl
  | cons head _ inductionHypothesis =>
    rw [List.findSome?_cons, List.findSome?_cons, polled_congr datacenter policy head,
      inductionHypothesis]

theorem lastKnown_congr {cycles others : List Cycle}
    (alike : List.Forall₂ (datacenter.AnsweredAlike policy) cycles others) :
    datacenter.lastKnown policy cycles = datacenter.lastKnown policy others := by
  rw [lastKnown, lastKnown, lastFetched?, lastFetched?,
    findSome?_polled_congr datacenter policy (List.rel_reverse alike)]

/-- Histories that answer the datacenter alike leave the same slice of it. -/
theorem recounted_congr {cycles others : List Cycle}
    (alike : List.Forall₂ (datacenter.AnsweredAlike policy) cycles others) :
    datacenter.recounted policy cycles = datacenter.recounted policy others := by
  rcases List.eq_nil_or_concat' cycles with rfl | ⟨earlier, last, rfl⟩
  · rw [List.forall₂_nil_left_iff.mp alike]
  · have backwards := List.rel_reverse alike
    rw [List.reverse_concat, List.forall₂_cons_left_iff] at backwards
    obtain ⟨otherLast, otherEarlier, lastAlike, earlierAlike, turned⟩ := backwards
    have split : others = otherEarlier.reverse ++ [otherLast] := by
      rw [← List.reverse_reverse others, turned, List.reverse_cons]
    have known := lastKnown_congr datacenter policy (List.rel_reverse earlierAlike)
    rw [List.reverse_reverse] at known
    rw [split, recounted_concat, recounted_concat, sliceAfter, sliceAfter,
      polled_congr datacenter policy lastAlike, known, lastAlike.1]

end Datacenter

/-! ### Every snapshot is what its history tells -/

namespace Setup

variable (setup : Setup)

/-- The snapshot that a history of cycles should lead to. -/
def recounted (cycles : List Cycle) : Snapshot :=
  ⟨cycles.length, setup.registry.datacenters.map (·.recounted setup.policy cycles)⟩

theorem recounted_names (cycles : List Cycle) :
    (setup.recounted cycles).slices.map (·.status.name) = setup.registry.names := by
  rw [recounted, Registry.names, List.map_map]
  exact List.map_congr_left fun datacenter _ =>
    datacenter.recounted_name setup.policy cycles

/-- Under the name of a datacenter stands its own slice. -/
theorem recounted_slice? (cycles : List Cycle) {datacenter : Datacenter}
    (member : datacenter ∈ setup.registry.datacenters) :
    (setup.recounted cycles).slice? datacenter.name =
      some (datacenter.recounted setup.policy cycles) := by
  have distinct : ((setup.recounted cycles).slices.map (·.status.name)).Nodup := by
    rw [recounted_names]
    exact setup.registry.nodup_names
  exact (find?_eq_some_iff_of_nodup distinct).mpr
    ⟨List.mem_map_of_mem member, datacenter.recounted_name setup.policy cycles⟩

/-- A poll that follows a history leaves the slice that the longer history tells. -/
theorem slice_recounted (earlier : List Cycle) (last : Cycle) {datacenter : Datacenter}
    (member : datacenter ∈ setup.registry.datacenters) :
    (datacenter.backend setup.policy).slice setup.policy (setup.recounted earlier) last.ended
        (datacenter.polled setup.policy last) =
      datacenter.recounted setup.policy (earlier ++ [last]) := by
  rw [Datacenter.recounted_concat, Datacenter.sliceAfter]
  cases datacenter.polled setup.policy last with
  | ok fetched => rfl
  | error reason =>
    unfold Backend.slice
    by_cases retain : setup.policy.retainStaleData = true
    · -- The snapshot before holds the slice of the earlier history, and no other is looked up.
      have kept : (setup.recounted earlier).slice? (datacenter.backend setup.policy).name =
          some (datacenter.recounted setup.policy earlier) := setup.recounted_slice? earlier member
      simp only [if_pos retain, kept, Option.map_some, Option.getD_some,
        datacenter.recounted_data_of_retain setup.policy retain]
      rfl
    · simp only [if_neg retain, Option.map_none, Option.getD_none]
      rfl

/-- One more cycle turns the snapshot of a history into that of the longer history. -/
theorem recounted_next (earlier : List Cycle) (last : Cycle) :
    (setup.recounted earlier).next setup.backends setup.policy last.networks last.ended =
      setup.recounted (earlier ++ [last]) := by
  rw [Snapshot.next, backends, List.map_map, recounted.eq_def setup (earlier ++ [last]),
    List.length_append, List.length_singleton]
  congr 1
  exact List.map_congr_left fun datacenter member => setup.slice_recounted earlier last member

/-- The snapshot that some cycles lead to says of each datacenter what its own history tells. -/
theorem snapshotAfter_eq_recounted (cycles : List Cycle) :
    setup.snapshotAfter cycles = setup.recounted cycles := by
  induction cycles using List.reverseRecOn with
  | nil =>
    rw [snapshotAfter, List.foldl_nil, Snapshot.initial, Registry.names, List.map_map]
    rfl
  | append_singleton earlier last inductionHypothesis =>
    rw [snapshotAfter_concat, inductionHypothesis, recounted_next]

end Setup

/-! ### Runs -/

/-- What a slice says of a datacenter after some cycles. The last poll decides the status; kept
data are those of the most recent poll that got through. -/
structure Slice.Tells (slice : Slice) (datacenter : Datacenter) (policy : Policy)
    (cycles : List Cycle) : Prop where
  unpolled : cycles = [] →
    slice = ⟨⟨datacenter.name, .unknown, none, none, false⟩, Collections.empty⟩
  known : cycles ≠ [] → slice.status.health ≠ .unknown
  succeeded : ∀ earlier last fetched, cycles = earlier ++ [last] →
    datacenter.polled policy last = .ok fetched →
      slice.status = ⟨datacenter.name, .reachable, none, some last.ended, false⟩ ∧
        slice.data = Collections.ofFetched datacenter.name fetched
  failed : ∀ earlier last reason, cycles = earlier ++ [last] →
    datacenter.polled policy last = .error reason →
      slice.status = ⟨datacenter.name, .unreachable, some reason, some last.ended, true⟩ ∧
        (policy.retainStaleData = false → slice.data = Collections.empty)
  kept : policy.retainStaleData = true → ∀ earlier good later fetched,
    cycles = earlier ++ good :: later → datacenter.polled policy good = .ok fetched →
      (∀ cycle ∈ later, ∃ reason, datacenter.polled policy cycle = .error reason) →
        slice.data = Collections.ofFetched datacenter.name fetched
  missed : (∀ cycle ∈ cycles, ∃ reason, datacenter.polled policy cycle = .error reason) →
    slice.data = Collections.empty

namespace Datacenter

variable (datacenter : Datacenter) (policy : Policy)

theorem recounted_of_ok {earlier : List Cycle} {last : Cycle} {fetched : Fetched}
    (brought : datacenter.polled policy last = .ok fetched) :
    datacenter.recounted policy (earlier ++ [last]) =
      ⟨Status.reachable datacenter.name last.ended,
        Collections.ofFetched datacenter.name fetched⟩ := by
  rw [recounted_concat, sliceAfter, brought]

theorem recounted_of_error {earlier : List Cycle} {last : Cycle} {reason : String}
    (failed : datacenter.polled policy last = .error reason) :
    datacenter.recounted policy (earlier ++ [last]) =
      ⟨Status.unreachable datacenter.name reason last.ended,
        if policy.retainStaleData then datacenter.lastKnown policy earlier
          else Collections.empty⟩ := by
  rw [recounted_concat, sliceAfter, failed]

/-- One poll that gets through leaves what it has brought. -/
theorem recounted_once {cycle : Cycle} {fetched : Fetched}
    (brought : datacenter.polled policy cycle = .ok fetched) :
    datacenter.recounted policy [cycle] =
      ⟨Status.reachable datacenter.name cycle.ended,
        Collections.ofFetched datacenter.name fetched⟩ := by
  rw [← List.nil_append [cycle], recounted_of_ok datacenter policy brought]

theorem recounted_health {cycles : List Cycle} (polled : cycles ≠ []) :
    (datacenter.recounted policy cycles).status.health ≠ .unknown := by
  obtain ⟨earlier, last, rfl⟩ := List.eq_nil_or_concat' cycles |>.resolve_left polled
  cases brought : datacenter.polled policy last with
  | ok fetched =>
    rw [recounted_of_ok datacenter policy brought]
    exact fun unknown => nomatch unknown
  | error reason =>
    rw [recounted_of_error datacenter policy brought]
    exact fun unknown => nomatch unknown

/-- The data of a datacenter that no poll has reached are none, kept or not. -/
theorem recounted_data_of_only_failures {cycles : List Cycle}
    (failures : ∀ cycle ∈ cycles, ∃ reason, datacenter.polled policy cycle = .error reason) :
    (datacenter.recounted policy cycles).data = Collections.empty := by
  by_cases retain : policy.retainStaleData = true
  · rw [recounted_data_of_retain datacenter policy retain]
    exact lastKnown_of_only_failures datacenter policy failures
  · rcases List.eq_nil_or_concat' cycles with rfl | ⟨earlier, last, rfl⟩
    · rfl
    · obtain ⟨reason, failed⟩ := failures last (List.mem_append_right _ List.mem_cons_self)
      rw [recounted_of_error datacenter policy failed]
      exact if_neg retain

theorem recounted_tells (cycles : List Cycle) :
    (datacenter.recounted policy cycles).Tells datacenter policy cycles where
  unpolled := by
    rintro rfl
    rfl
  known := datacenter.recounted_health policy
  succeeded := by
    rintro earlier last fetched rfl brought
    rw [recounted_of_ok datacenter policy brought]
    exact ⟨rfl, rfl⟩
  failed := by
    rintro earlier last reason rfl failed
    rw [recounted_of_error datacenter policy failed]
    refine ⟨rfl, fun drop => ?_⟩
    exact if_neg (Bool.eq_false_iff.mp drop)
  kept := by
    rintro retain earlier good later fetched rfl brought failures
    rw [recounted_data_of_retain datacenter policy retain]
    exact lastKnown_of_failures datacenter policy brought failures
  missed := datacenter.recounted_data_of_only_failures policy

end Datacenter

namespace Dashboard

/-- However polls and other uses follow each other, the snapshot counts the polls, lists the
datacenters of the registry in their order, and tells of each one what its own polls have come
to. Other runs in which the datacenter is answered alike agree on it. -/
theorem run_tells_history {setup : Setup} {files : Files} {fresh : Dashboard}
    (built : build setup files = .ok fresh) (uses : List Use) :
    (fresh.run uses).snapshot.generation = (cycles uses).length ∧
      (fresh.run uses).snapshot.slices.map (·.status.name) = setup.registry.names ∧
      ∀ datacenter ∈ setup.registry.datacenters, ∃ slice,
        (fresh.run uses).snapshot.slice? datacenter.name = some slice ∧
        slice.Tells datacenter setup.policy (cycles uses) ∧
        ∀ others,
          List.Forall₂ (datacenter.AnsweredAlike setup.policy) (cycles uses) (cycles others) →
            (fresh.run others).snapshot.slice? datacenter.name = some slice := by
  have told : ∀ uses, (fresh.run uses).snapshot = setup.recounted (cycles uses) := fun uses =>
    (run_snapshot built uses).trans (setup.snapshotAfter_eq_recounted _)
  refine ⟨?_, ?_, fun datacenter member => ?_⟩
  · rw [told]
    rfl
  · rw [told, setup.recounted_names]
  · refine ⟨datacenter.recounted setup.policy (cycles uses), ?_,
      datacenter.recounted_tells setup.policy _, fun others alike => ?_⟩
    · rw [told, setup.recounted_slice? _ member]
    · rw [told, setup.recounted_slice? _ member,
        datacenter.recounted_congr setup.policy alike]

/-- One poll that gets through leaves what it has brought, where there is one datacenter. -/
theorem snapshot_run_poll {setup : Setup} {files : Files} {fresh : Dashboard}
    (built : build setup files = .ok fresh) {datacenter : Datacenter}
    (alone : setup.registry.datacenters = [datacenter]) {networks : Networks} {ended : Instant}
    {brought : Fetched} (polled : datacenter.polled setup.policy ⟨networks, ended⟩ = .ok brought) :
    (fresh.run [.poll networks ended]).snapshot =
      ⟨1, [⟨Status.reachable datacenter.name ended,
        Collections.ofFetched datacenter.name brought⟩]⟩ := by
  rw [run_snapshot built, setup.snapshotAfter_eq_recounted, Setup.recounted, alone]
  exact congrArg (fun slice => Snapshot.mk 1 [slice])
    (datacenter.recounted_once setup.policy polled)

end Dashboard

namespace Sample

/-- What a poll finds where there is one silence. -/
def fetched : Fetched :=
  ⟨[], [], [], [], [], [⟨"windows:*", some "windows", none, none, none, none, false, []⟩]⟩

theorem polled_oneSilence (ended : Instant) :
    east.polled setup.policy ⟨answering oneSilence, ended⟩ = .ok fetched := by
  show (east.backend setup.policy).poll (answering oneSilence "east") = .ok fetched
  exact eq_ok_of_toOption_eq_some (by decide +kernel)

theorem snapshot_polled_oneSilence :
    (polled oneSilence).snapshot =
      ⟨1, [⟨Status.reachable "east" ⟨1, 0⟩, Collections.ofFetched "east" fetched⟩]⟩ :=
  Dashboard.snapshot_run_poll (built fun _ => .vacant "") rfl (polled_oneSilence _)

/-- That silence as it is listed then. -/
def windowsSilence : Object :=
  .silence ⟨"east", "windows:*", some "windows", none, none, none, none, false, []⟩

theorem list_polled_oneSilence : (polled oneSilence).snapshot.list .silence = [windowsSilence] := by
  rw [snapshot_polled_oneSilence]
  decide +kernel

end Sample

/-- A poll that meets nobody leaves what the poll before it has brought. -/
theorem Dashboard.run_tells_history_after_failure :
    build Sample.setup (fun _ => .vacant "") = .ok Sample.fresh ∧
      ∃ slice,
        (Sample.fresh.run [.poll (Sample.answering Sample.oneSilence) ⟨1, 0⟩, .read,
          .poll Sample.nobody ⟨2, 0⟩]).snapshot.slice? "east" = some slice ∧
        slice.status.health ≠ .unknown ∧
        slice.data = Collections.ofFetched "east" Sample.fetched := by
  have built := Sample.built fun _ => .vacant ""
  obtain ⟨-, -, each⟩ := run_tells_history built
    [.poll (Sample.answering Sample.oneSilence) ⟨1, 0⟩, .read, .poll Sample.nobody ⟨2, 0⟩]
  obtain ⟨slice, found, tells, -⟩ := each Sample.east List.mem_cons_self
  refine ⟨built, slice, found, tells.known (List.cons_ne_nil _ _), ?_⟩
  refine tells.kept rfl [] ⟨Sample.answering Sample.oneSilence, ⟨1, 0⟩⟩
    [⟨Sample.nobody, ⟨2, 0⟩⟩] _ rfl (Sample.polled_oneSilence _) fun cycle member => ?_
  rw [List.mem_singleton.mp member]
  exact ⟨_, rfl⟩

end FleetView
