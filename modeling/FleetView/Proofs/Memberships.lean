/-
This file proves that the subscriptions a caller sees agree with the clients and checks the
caller sees. The three are filtered one by one and each by a rule of its own, and the
subscriptions were derived from all clients and checks and not from those in sight. They agree
because one name puts the carrier and the subscription in sight: who may see a name sees whatever
carries it, so no name in sight is without a carrier in sight, and no carrier shows a name that is
not itself in sight.
-/

import FleetView.Proofs.Carriers
import FleetView.Proofs.Roles
import FleetView.Proofs.Sight

namespace FleetView

/-! ### What every slice tells -/

theorem Collections.empty_tellsSubscriptions : empty.TellsSubscriptions where
  ascending := List.Pairwise.nil
  names := fun _ => iff_of_false List.not_mem_nil
    fun ⟨_, carried⟩ => carried.elim nofun nofun
  shown := nofun
  counts := nofun
  uncarried := nofun

/-- Data that are kept through failures tell as much as those of a poll that gets through. -/
theorem Datacenter.recounted_tellsSubscriptions (datacenter : Datacenter) (policy : Policy)
    (cycles : List Cycle) : (datacenter.recounted policy cycles).data.TellsSubscriptions := by
  rcases datacenter.recounted_data policy cycles with none | ⟨cycle, -, fetched, -, brought⟩
  · rw [none]
    exact Collections.empty_tellsSubscriptions
  · rw [brought]
    exact Collections.ofFetched_tellsSubscriptions _ _

theorem Dashboard.Reachable.tellsSubscriptions {setup : Setup} {dashboard : Dashboard}
    (reached : Reachable setup dashboard) {slice : Slice}
    (listed : slice ∈ dashboard.snapshot.slices) : slice.data.TellsSubscriptions := by
  obtain ⟨cycles, same⟩ := reached.snapshot_eq_recounted
  rw [same] at listed
  obtain ⟨datacenter, -, rfl⟩ := List.mem_map.mp listed
  exact datacenter.recounted_tellsSubscriptions setup.policy cycles

namespace Snapshot

variable {snapshot : Snapshot} {identity : Identity} {datacenter : String}

/-- The objects of a kind in a datacenter are those of its slice. -/
theorem Sound.mem_slice_iff (sound : snapshot.Sound) {slice : Slice}
    (listed : slice ∈ snapshot.slices) {kind : Kind} {object : Object} :
    object ∈ slice.data.objects kind ↔
      object ∈ snapshot.list kind ∧ object.datacenter = slice.status.name := by
  rw [mem_list_iff]
  constructor
  · intro held
    exact ⟨⟨slice, listed, held⟩, (sound.slices slice listed).tagged kind object held⟩
  · rintro ⟨⟨other, otherListed, held⟩, owned⟩
    have same : other.status.name = slice.status.name :=
      ((sound.slices other otherListed).tagged kind object held).symm.trans owned
    rwa [List.inj_on_of_nodup_map sound.distinct otherListed listed same] at held

/-! ### What a caller sees of a datacenter -/

/-- The objects of a kind in a datacenter that a caller sees. -/
def seen (snapshot : Snapshot) (identity : Identity) (kind : Kind) (datacenter : String) :
    List Object :=
  (identity.filter kind (snapshot.list kind)).filter fun object =>
    decide (object.datacenter = datacenter)

/-- Whether a caller sees a client or a check of a datacenter that carries a name. -/
def ShowsCarrier (snapshot : Snapshot) (identity : Identity) (datacenter name : String) : Prop :=
  (∃ client, .client client ∈ snapshot.seen identity .client datacenter ∧
      name ∈ client.subscriptions) ∨
    ∃ check, .check check ∈ snapshot.seen identity .check datacenter ∧ name ∈ check.subscribers

/-- Whether a caller sees the subscription of a name in a datacenter. -/
def ShowsSubscription (snapshot : Snapshot) (identity : Identity) (datacenter name : String) :
    Prop :=
  ∃ subscription, .subscription subscription ∈ snapshot.seen identity .subscription datacenter ∧
    subscription.name = name

theorem mem_seen_iff {kind : Kind} {object : Object} :
    object ∈ snapshot.seen identity kind datacenter ↔
      (object ∈ snapshot.list kind ∧ object.datacenter = datacenter) ∧
        identity.mayEnter datacenter = true ∧
        ∀ allowed, identity.subscriptions = some allowed → object.SharesOneOf allowed := by
  rw [seen, identity.filter_list, List.mem_filter, List.mem_filter, decide_eq_true_eq,
    Identity.maySee_object_iff]
  constructor
  · rintro ⟨⟨listed, enters, shares⟩, rfl⟩
    exact ⟨⟨listed, rfl⟩, enters, shares⟩
  · rintro ⟨⟨listed, rfl⟩, enters, shares⟩
    exact ⟨⟨listed, enters, shares⟩, rfl⟩

/-- What the subscriptions in sight have to do with the clients and checks in sight. -/
structure SubscriptionsAgree (snapshot : Snapshot) (identity : Identity) (datacenter : String) :
    Prop where
  /-- The names in sight are those that something in sight carries, less the one without characters
  and those outside the caller's subscription scope. -/
  names : ∀ name, snapshot.ShowsSubscription identity datacenter name ↔
    name ≠ "" ∧ snapshot.ShowsCarrier identity datacenter name ∧
      ∀ allowed, identity.subscriptions = some allowed → name ∈ allowed
  /-- A subscription in sight has a carrier in sight. -/
  carried : ∀ subscription,
    .subscription subscription ∈ snapshot.seen identity .subscription datacenter →
      snapshot.ShowsCarrier identity datacenter subscription.name
  /-- A client is in sight of a caller with a subscription scope through some name of the scope,
  and each such name that has characters is in sight itself. -/
  clients : ∀ allowed, identity.subscriptions = some allowed →
    ∀ client, .client client ∈ snapshot.seen identity .client datacenter →
      (∃ name ∈ client.subscriptions, name ∈ allowed) ∧
        ∀ name ∈ client.subscriptions, name ∈ allowed → name ≠ "" →
          snapshot.ShowsSubscription identity datacenter name
  /-- The same holds of a check. -/
  checks : ∀ allowed, identity.subscriptions = some allowed →
    ∀ check, .check check ∈ snapshot.seen identity .check datacenter →
      (∃ name ∈ check.subscribers, name ∈ allowed) ∧
        ∀ name ∈ check.subscribers, name ∈ allowed → name ≠ "" →
          snapshot.ShowsSubscription identity datacenter name

end Snapshot

namespace Dashboard

open Snapshot

variable {setup : Setup} {dashboard : Dashboard}

/-- The subscriptions of a datacenter go by the names that its clients and checks carry. -/
theorem Reachable.exists_subscription_iff (reached : Reachable setup dashboard)
    {datacenter name : String} :
    (∃ subscription, .subscription subscription ∈ dashboard.snapshot.list .subscription ∧
        subscription.datacenter = datacenter ∧ subscription.name = name) ↔
      name ≠ "" ∧
        ((∃ client, .client client ∈ dashboard.snapshot.list .client ∧
            client.datacenter = datacenter ∧ name ∈ client.subscriptions) ∨
          ∃ check, .check check ∈ dashboard.snapshot.list .check ∧
            check.datacenter = datacenter ∧ name ∈ check.subscribers) := by
  have sound := reached.sound
  by_cases known : ∃ slice ∈ dashboard.snapshot.slices, slice.status.name = datacenter
  · obtain ⟨slice, there, rfl⟩ := known
    have subscriptions : ∀ subscription, subscription ∈ slice.data.subscriptions ↔
        .subscription subscription ∈ dashboard.snapshot.list .subscription ∧
          subscription.datacenter = slice.status.name := fun subscription =>
      (List.mem_map_of_injective fun _ _ => Object.subscription.inj).symm.trans
        (@Sound.mem_slice_iff _ sound _ there .subscription _)
    have clients : ∀ client, client ∈ slice.data.clients ↔
        .client client ∈ dashboard.snapshot.list .client ∧
          client.datacenter = slice.status.name := fun client =>
      (List.mem_map_of_injective fun _ _ => Object.client.inj).symm.trans
        (@Sound.mem_slice_iff _ sound _ there .client _)
    have checks : ∀ check, check ∈ slice.data.checks ↔
        .check check ∈ dashboard.snapshot.list .check ∧
          check.datacenter = slice.status.name := fun check =>
      (List.mem_map_of_injective fun _ _ => Object.check.inj).symm.trans
        (@Sound.mem_slice_iff _ sound _ there .check _)
    have names := (reached.tellsSubscriptions there).names name
    rw [List.mem_map] at names
    simpa only [subscriptions, clients, checks, and_assoc] using names
  · have absent : ∀ {kind object}, object ∈ dashboard.snapshot.list kind →
        object.datacenter ≠ datacenter := by
      intro kind object listed owned
      obtain ⟨slice, there, held⟩ := mem_list_iff.mp listed
      exact known ⟨slice, there, ((sound.slices slice there).tagged kind object held).symm.trans
        owned⟩
    refine iff_of_false (fun ⟨_, listed, owned, _⟩ => absent listed owned) ?_
    rintro ⟨-, ⟨_, listed, owned, _⟩ | ⟨_, listed, owned, _⟩⟩
    · exact absent listed owned
    · exact absent listed owned

/-- A caller sees the subscriptions of the names that something in sight carries, as far as they are
in the caller's subscription scope. -/
theorem Reachable.showsSubscription_iff (reached : Reachable setup dashboard) (identity : Identity)
    (datacenter name : String) :
    dashboard.snapshot.ShowsSubscription identity datacenter name ↔
      name ≠ "" ∧ dashboard.snapshot.ShowsCarrier identity datacenter name ∧
        ∀ allowed, identity.subscriptions = some allowed → name ∈ allowed := by
  unfold ShowsSubscription ShowsCarrier
  simp only [mem_seen_iff]
  constructor
  · rintro ⟨subscription, ⟨⟨listed, owned⟩, enters, shares⟩, rfl⟩
    obtain ⟨named, carried⟩ := reached.exists_subscription_iff.mp ⟨_, listed, owned, rfl⟩
    refine ⟨named, carried.imp ?_ ?_, shares⟩
    · rintro ⟨client, there, home, carries⟩
      exact ⟨client, ⟨⟨there, home⟩, enters, fun allowed limited =>
        ⟨_, carries, shares allowed limited⟩⟩, carries⟩
    · rintro ⟨check, there, home, carries⟩
      exact ⟨check, ⟨⟨there, home⟩, enters, fun allowed limited =>
        ⟨_, carries, shares allowed limited⟩⟩, carries⟩
  · rintro ⟨named, carried, allowed⟩
    have enters : identity.mayEnter datacenter = true := by
      rcases carried with ⟨_, ⟨-, enters, -⟩, -⟩ | ⟨_, ⟨-, enters, -⟩, -⟩
      · exact enters
      · exact enters
    obtain ⟨subscription, listed, owned, rfl⟩ := reached.exists_subscription_iff.mpr
      ⟨named, carried.imp
        (fun ⟨client, ⟨⟨there, home⟩, _⟩, carries⟩ => ⟨client, there, home, carries⟩)
        fun ⟨check, ⟨⟨there, home⟩, _⟩, carries⟩ => ⟨check, there, home, carries⟩⟩
    exact ⟨subscription, ⟨⟨listed, owned⟩, enters, allowed⟩, rfl⟩

/-- In every snapshot that a run leads to, fresh or kept through failures, the subscriptions that a
caller sees of a datacenter are those that the clients and checks in sight carry. -/
theorem subscriptions_agree (reached : Reachable setup dashboard) (identity : Identity)
    (datacenter : String) : dashboard.snapshot.SubscriptionsAgree identity datacenter where
  names := reached.showsSubscription_iff identity datacenter
  carried := fun subscription seen =>
    ((reached.showsSubscription_iff identity datacenter _).mp ⟨subscription, seen, rfl⟩).2.1
  clients := by
    intro allowed limited client seen
    refine ⟨(mem_seen_iff.mp seen).2.2 allowed limited, fun name carries listed named => ?_⟩
    refine (reached.showsSubscription_iff identity datacenter name).mpr
      ⟨named, Or.inl ⟨client, seen, carries⟩, fun other same => ?_⟩
    rwa [← Option.some.inj (limited.symm.trans same)]
  checks := by
    intro allowed limited check seen
    refine ⟨(mem_seen_iff.mp seen).2.2 allowed limited, fun name carries listed named => ?_⟩
    refine (reached.showsSubscription_iff identity datacenter name).mpr
      ⟨named, Or.inr ⟨check, seen, carries⟩, fun other same => ?_⟩
    rwa [← Option.some.inj (limited.symm.trans same)]

end Dashboard

namespace Sample

/-- The clients of the samples, as a poll finds them. -/
def carriersFound : Networks := reporting "clients" (carrying "[\"linux\",\"web\"]")

/-- The dashboard after a poll that finds the clients and one that meets nobody. -/
def carriersKept : Dashboard := (fresh.pollOnce carriersFound ⟨1, 0⟩).pollOnce nobody ⟨2, 0⟩

theorem reachable_carriersKept : Dashboard.Reachable setup carriersKept :=
  (reachable_fresh.pollOnce _ _).pollOnce _ _

theorem slice?_carriersKept :
    ∃ status, status.stale = true ∧ carriersKept.snapshot.slice? "east" =
      some ⟨status, Collections.ofFetched "east" (carriersFetched ["linux", "web"])⟩ := by
  have registered : east ∈ setup.registry.datacenters := List.mem_singleton_self _
  have delivers : (east.backend setup.policy).connection.Delivers (carriersFound east.name)
      (carriersFetched ["linux", "web"]) :=
    Backend.poll_eq_ok_iff.mp (eq_ok_of_toOption_eq_some (by decide +kernel))
  have found := reachable_fresh.slice?_pollOnce_of_delivers registered delivers ⟨1, 0⟩
  have failed : (east.backend setup.policy).poll (nobody east.name) = .error _ := rfl
  have kept := (reachable_fresh.pollOnce carriersFound ⟨1, 0⟩).slice?_pollOnce_of_error registered
    failed ⟨2, 0⟩
  rw [found] at kept
  exact ⟨_, rfl, kept⟩

end Sample

namespace Dashboard

/-- The client web carries linux and web. Who looks after linux sees the client, also when it is
known from an earlier poll only, and of the two names sees linux. -/
theorem subscriptions_agree_stale :
    Reachable Sample.setup Sample.carriersKept ∧
      (∃ slice, Sample.carriersKept.snapshot.slice? "east" = some slice ∧
        slice.status.stale = true) ∧
      Sample.carriersKept.snapshot.ShowsCarrier (Sample.operator "linux") "east" "web" ∧
      Sample.carriersKept.snapshot.ShowsSubscription (Sample.operator "linux") "east" "linux" ∧
      ¬ Sample.carriersKept.snapshot.ShowsSubscription (Sample.operator "linux") "east" "web" := by
  have reached := Sample.reachable_carriersKept
  obtain ⟨status, stale, there⟩ := Sample.slice?_carriersKept
  obtain ⟨listed, -⟩ := reached.sound.slice?_eq_some_iff.mp there
  have held : Object.client ⟨"east", "web", none, ["linux", "web"], none, none, []⟩ ∈
      Sample.carriersKept.snapshot.list .client := by
    refine Snapshot.mem_list_iff.mpr ⟨_, listed, ?_⟩
    show _ ∈ (Collections.ofFetched "east" (Sample.carriersFetched ["linux", "web"])).objects _
    decide +kernel
  have seen : Object.client ⟨"east", "web", none, ["linux", "web"], none, none, []⟩ ∈
      Sample.carriersKept.snapshot.seen (Sample.operator "linux") .client "east" :=
    Snapshot.mem_seen_iff.mpr ⟨⟨held, rfl⟩, by decide, fun allowed limited =>
      ⟨"linux", by decide, Option.some.inj limited ▸ List.mem_singleton_self _⟩⟩
  have agree := subscriptions_agree reached (Sample.operator "linux") "east"
  refine ⟨reached, ⟨_, there, stale⟩, Or.inl ⟨_, seen, by decide⟩, ?_, fun shown => ?_⟩
  · exact (agree.clients _ rfl _ seen).2 "linux" (by decide) (by decide) (by decide)
  · exact absurd (((agree.names "web").mp shown).2.2 _ rfl) (by decide)

end Dashboard

end FleetView
