/-
This file says what the number that a derived subscription shows is a number of. The tally
that subscriptions are read off adds one for every place in a list where a name stands, so
in the end the number is that of the places in the lists of all clients that are kept. It
is the number of clients that carry the name exactly when none of them lists it twice.
-/

import FleetView.Proofs.EventKeys

namespace FleetView

namespace Subscription

/-! ### What a tally counts -/

/-- What has been counted under a name. -/
def counted (name : String) : List (String × Nat) → Nat
  | [] => 0
  | (other, count) :: rest => (if other = name then count else 0) + counted name rest

/-- Counting adds to the name that is counted, and to no other. -/
theorem counted_tally (name other : String) (carriers : Nat) (counts : List (String × Nat)) :
    counted other (tally name carriers counts) =
      counted other counts + if name = other then carriers else 0 := by
  induction counts with
  | nil => exact Nat.add_comm _ _
  | cons entry rest inductionHypothesis =>
    obtain ⟨held, count⟩ := entry
    rw [tally]
    split
    · rw [counted, Nat.add_comm]
    · split
      · rename_i same
        rw [counted, counted, same]
        split <;> omega
      · rw [counted, counted, inductionHypothesis, Nat.add_assoc]

theorem counted_foldl_tally (carriers : Nat) (names : List String) (other : String)
    (counts : List (String × Nat)) :
    counted other (names.foldl (fun counts name => tally name carriers counts) counts) =
      counted other counts + names.count other * carriers := by
  induction names generalizing counts with
  | nil => rw [List.foldl_nil, List.count_nil, Nat.zero_mul, Nat.add_zero]
  | cons name rest inductionHypothesis =>
    rw [List.foldl_cons, inductionHypothesis, counted_tally, List.count_cons, Nat.add_mul,
      Nat.add_assoc, Nat.add_comm (rest.count other * carriers)]
    by_cases same : name = other <;> simp [same]

theorem counted_eq_zero {name : String} {counts : List (String × Nat)}
    (absent : name ∉ counts.map Prod.fst) : counted name counts = 0 := by
  induction counts with
  | nil => rfl
  | cons entry rest inductionHypothesis =>
    obtain ⟨held, count⟩ := entry
    rw [List.map_cons, List.mem_cons, not_or] at absent
    rw [counted, if_neg (Ne.symm absent.1), inductionHypothesis absent.2]

/-- Where no name comes twice, what has been counted under a name is the number beside it. -/
theorem counted_of_mem {name : String} {count : Nat} {counts : List (String × Nat)}
    (distinct : (counts.map Prod.fst).Nodup) (member : (name, count) ∈ counts) :
    counted name counts = count := by
  induction counts with
  | nil => cases member
  | cons entry rest inductionHypothesis =>
    obtain ⟨fresh, restDistinct⟩ := List.nodup_cons.mp distinct
    rcases List.mem_cons.mp member with rfl | later
    · rw [counted, if_pos rfl, counted_eq_zero fresh, Nat.add_zero]
    · have differs : entry.1 ≠ name := fun same =>
        fresh (same ▸ List.mem_map_of_mem later)
      rw [counted, if_neg differs, inductionHypothesis restDistinct later, Nat.zero_add]

/-! ### What a derived subscription shows -/

/-- How often a name stands in the lists of clients. -/
def places (clients : List Client) (name : String) : Nat :=
  (clients.map fun client => client.subscriptions.count name).sum

/-- How many clients carry a name. -/
def carriers (clients : List Client) (name : String) : Nat :=
  clients.countP fun client => name ∈ client.subscriptions

theorem clientCount_of_mem_gather {datacenter : String} {clients : List Client}
    {checks : List Check} {subscription : Subscription}
    (member : subscription ∈ gather datacenter clients checks) :
    subscription.clientCount = places clients subscription.name := by
  obtain ⟨⟨name, count⟩, kept, rfl⟩ := List.mem_map.mp member
  have ascending := ascending_foldl_tally 0 (checks.flatMap (·.subscribers))
    (ascending_foldl_tally 1 (clients.flatMap (·.subscriptions)) List.Pairwise.nil)
  have distinct := (List.pairwise_map.mpr ascending).imp fun below => ne_of_lt below
  have found := counted_of_mem distinct (List.mem_filter.mp kept).1
  rw [counted_foldl_tally, counted_foldl_tally, Nat.mul_zero, Nat.mul_one, Nat.add_zero,
    counted, Nat.zero_add, List.count_flatMap] at found
  exact found.symm

theorem carriers_cons (client : Client) (rest : List Client) (name : String) :
    carriers (client :: rest) name =
      carriers rest name + if name ∈ client.subscriptions then 1 else 0 := by
  simp only [carriers, List.countP_cons, decide_eq_true_eq]

theorem places_cons (client : Client) (rest : List Client) (name : String) :
    places (client :: rest) name = places rest name + client.subscriptions.count name := by
  rw [places, List.map_cons, List.sum_cons, Nat.add_comm]
  rfl

theorem carriers_le_places (clients : List Client) (name : String) :
    carriers clients name ≤ places clients name := by
  induction clients with
  | nil => exact Nat.le_refl _
  | cons client rest inductionHypothesis =>
    rw [carriers_cons, places_cons]
    refine Nat.add_le_add inductionHypothesis ?_
    split
    · rename_i carried
      exact List.count_pos_iff.mpr carried
    · exact Nat.zero_le _

/-- There are as many places as carriers exactly when no client has two. -/
theorem places_eq_carriers_iff (clients : List Client) (name : String) :
    places clients name = carriers clients name ↔
      ∀ client ∈ clients, client.subscriptions.count name ≤ 1 := by
  induction clients with
  | nil => exact iff_of_true rfl nofun
  | cons client rest inductionHypothesis =>
    have least := carriers_le_places rest name
    rw [List.forall_mem_cons, ← inductionHypothesis, carriers_cons, places_cons]
    split
    · rename_i carried
      have once : 0 < client.subscriptions.count name := List.count_pos_iff.mpr carried
      omega
    · rename_i absent
      have never : client.subscriptions.count name = 0 := List.count_eq_zero.mpr absent
      omega

/-- What is carried nowhere has no places. -/
theorem places_eq_zero_iff (clients : List Client) (name : String) :
    places clients name = 0 ↔ ∀ client ∈ clients, name ∉ client.subscriptions := by
  rw [places, List.sum_eq_zero_iff, List.forall_mem_map]
  exact forall₂_congr fun client _ => List.count_eq_zero

end Subscription

namespace Collections

/-- What the subscriptions of a datacenter tell about its clients and checks. -/
structure TellsSubscriptions (data : Collections) : Prop where
  /-- The names ascend strictly, so each stands once. -/
  ascending : (data.subscriptions.map (·.name)).Pairwise (· < ·)
  names : ∀ name, name ∈ data.subscriptions.map (·.name) ↔
    name ≠ "" ∧ ((∃ client ∈ data.clients, name ∈ client.subscriptions) ∨
      ∃ check ∈ data.checks, name ∈ check.subscribers)
  /-- What is shown is how often the name stands in the lists of the clients. -/
  shown : ∀ subscription ∈ data.subscriptions,
    subscription.clientCount =
      (data.clients.map fun client => client.subscriptions.count subscription.name).sum
  /-- That is the number of the clients that carry the name exactly when none lists it twice. -/
  counts : ∀ subscription ∈ data.subscriptions,
    subscription.clientCount =
        (data.clients.filter fun client => subscription.name ∈ client.subscriptions).length ↔
      ∀ client ∈ data.clients, client.subscriptions.count subscription.name ≤ 1
  /-- What only checks carry shows nothing. -/
  uncarried : ∀ subscription ∈ data.subscriptions, subscription.clientCount = 0 ↔
    ∀ client ∈ data.clients, subscription.name ∉ client.subscriptions

theorem ofFetched_tellsSubscriptions (datacenter : String) (fetched : Fetched) :
    (ofFetched datacenter fetched).TellsSubscriptions where
  ascending := Subscription.ascending_gather _ _ _
  names := by
    intro name
    refine Subscription.mem_names_gather.trans ?_
    rw [List.mem_flatMap, List.mem_flatMap, and_comm]
    rfl
  shown := fun _ => Subscription.clientCount_of_mem_gather
  counts := by
    intro subscription member
    rw [← List.countP_eq_length_filter, Subscription.clientCount_of_mem_gather member]
    exact Subscription.places_eq_carriers_iff _ _
  uncarried := by
    intro subscription member
    rw [Subscription.clientCount_of_mem_gather member]
    exact Subscription.places_eq_zero_iff _ _

end Collections

namespace Dashboard

/-- The subscriptions of a datacenter after a poll that gets through. They are those of the clients
and the checks that are kept of the replies, each name once and in order; and the number beside a
name is that of the clients that carry it exactly when no client lists the name twice. -/
theorem subscriptions_count_iff {setup : Setup} {dashboard : Dashboard}
    (reached : Reachable setup dashboard) {datacenter : Datacenter}
    (registered : datacenter ∈ setup.registry.datacenters) {networks : Networks}
    {fetched : Fetched}
    (delivers : (datacenter.backend setup.policy).connection.Delivers (networks datacenter.name)
      fetched) (now : Instant) :
    ∃ slice, (dashboard.pollOnce networks now).snapshot.slice? datacenter.name = some slice ∧
      slice.data.Thinned datacenter.name fetched ∧
      (slice.data.clients.map (·.name)).Nodup ∧
      slice.data.TellsSubscriptions := by
  have there := reached.slice?_pollOnce_of_delivers registered delivers now
  exact ⟨_, there, Collections.ofFetched_thinned _ _, nodup_keys_keepFirst _ _ _,
    Collections.ofFetched_tellsSubscriptions _ _⟩

end Dashboard

namespace Sample

/-- The report of a client with some subscriptions, and of one that carries linux. -/
def carrying (subscriptions : String) : String :=
  "[\x7b\"name\":\"web\",\"subscriptions\":" ++ subscriptions ++ "\x7d," ++
    "\x7b\"name\":\"db\",\"subscriptions\":[\"linux\"]\x7d]"

/-- What a poll finds where there are these clients. -/
def carriersFetched (subscriptions : List String) : Fetched :=
  ⟨[], [⟨"web", none, subscriptions, none, none, []⟩, ⟨"db", none, ["linux"], none, none, []⟩],
    [], [], [], []⟩

end Sample

namespace Dashboard

/-- Two clients carry linux, and each of them once, so two are counted. -/
theorem subscriptions_count_iff_linux :
    Reachable Sample.setup Sample.fresh ∧ Sample.east ∈ Sample.setup.registry.datacenters ∧
      ∃ slice, (Sample.fresh.pollOnce
          (Sample.reporting "clients" (Sample.carrying "[\"linux\",\"web\"]"))
          ⟨1, 0⟩).snapshot.slice? "east" = some slice ∧
        ∃ subscription ∈ slice.data.subscriptions,
          subscription.name = "linux" ∧ subscription.clientCount = 2 := by
  have registered : Sample.east ∈ Sample.setup.registry.datacenters := List.mem_singleton_self _
  have delivers : (Sample.east.backend Sample.setup.policy).connection.Delivers
      (Sample.reporting "clients" (Sample.carrying "[\"linux\",\"web\"]") Sample.east.name)
      (Sample.carriersFetched ["linux", "web"]) :=
    Backend.poll_eq_ok_iff.mp (eq_ok_of_toOption_eq_some (by decide +kernel))
  obtain ⟨slice, there, thinned, -, tells⟩ :=
    subscriptions_count_iff Sample.reachable_fresh registered delivers ⟨1, 0⟩
  have clients : slice.data.clients = [⟨"east", "web", none, ["linux", "web"], none, none, []⟩,
      ⟨"east", "db", none, ["linux"], none, none, []⟩] := thinned.clients.trans (by decide +kernel)
  have listed : "linux" ∈ slice.data.subscriptions.map (·.name) :=
    (tells.names "linux").mpr ⟨by decide, Or.inl (by rw [clients]; decide)⟩
  obtain ⟨subscription, member, named⟩ := List.mem_map.mp listed
  refine ⟨Sample.reachable_fresh, registered, slice, there, subscription, member, named, ?_⟩
  rw [(tells.counts subscription member).mpr, clients, named]
  · decide
  · rw [clients, named]
    decide

/-- A client that lists linux twice is counted twice. -/
theorem carrier_counted_twice :
    Reachable Sample.setup Sample.fresh ∧
      ∃ slice, (Sample.fresh.pollOnce
          (Sample.reporting "clients" (Sample.carrying "[\"linux\",\"linux\"]"))
          ⟨1, 0⟩).snapshot.slice? "east" = some slice ∧
        slice.data.subscriptions = [⟨"east", "linux", 3⟩] ∧
        (slice.data.clients.filter fun client => "linux" ∈ client.subscriptions).length = 2 := by
  have delivers : (Sample.east.backend Sample.setup.policy).connection.Delivers
      (Sample.reporting "clients" (Sample.carrying "[\"linux\",\"linux\"]") Sample.east.name)
      (Sample.carriersFetched ["linux", "linux"]) :=
    Backend.poll_eq_ok_iff.mp (eq_ok_of_toOption_eq_some (by decide +kernel))
  exact ⟨Sample.reachable_fresh, _, Sample.reachable_fresh.slice?_pollOnce_of_delivers
    (List.mem_singleton_self _) delivers ⟨1, 0⟩, by decide +kernel, by decide +kernel⟩

end Dashboard

end FleetView
