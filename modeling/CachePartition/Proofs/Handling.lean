import CachePartition.Proofs.Outcomes

/-! What bringing one node in line comes to in a world: either it fails and leaves the tables alone, or
it puts the table at the node's address right and touches no other. -/
namespace CachePartition

open Pass

variable {u a : String} {body : Entry}

/-- The settings of an entry are those of another. -/
structure Entry.SameSettings (e body : Entry) : Prop where
  coreIds : e.coreIds = body.coreIds
  policy : e.policy = body.policy
  allocation : e.allocation = body.allocation
  plugins : e.plugins = body.plugins

/-- The workload has one entry, and it has these settings. -/
def Entry.Settled (u : String) (body : Entry) (l : List Entry) : Prop :=
  ∃ e, owned u l = [e] ∧ e.SameSettings body

namespace Daemons

variable {d : Daemons}

/-- The tables differ at one address only, and there only in what one workload holds. -/
structure Revised (u a : String) (d d' : Daemons) : Prop where
  unreachable : d'.unreachable = d.unreachable
  elsewhere (b : String) (h : b ≠ a) : d'.entriesAt b = d.entriesAt b
  others : Entry.foreign u (d'.entriesAt a) = Entry.foreign u (d.entriesAt a)

theorem Revised.refl (u a : String) (d : Daemons) : Revised u a d d := ⟨rfl, fun _ _ => rfl, rfl⟩

theorem revised_push (own : body.uuid = u) : Revised u a d (d.push a body) where
  unreachable := rfl
  elsewhere b hb := by rw [entriesAt_push, if_neg hb]
  others := by
    rw [entriesAt_push, if_pos rfl]
    simp [Entry.foreign, stored, own]

theorem revised_mapAt {f : List Entry → List Entry} (hf : f [] = [])
    (others : Entry.foreign u (f (d.entriesAt a)) = Entry.foreign u (d.entriesAt a)) :
    Revised u a d (d.mapAt a f) where
  unreachable := unreachable_mapAt ..
  elsewhere b hb := by rw [entriesAt_mapAt d a hf, if_neg hb]
  others := by rw [entriesAt_mapAt d a hf, if_pos rfl, others]

theorem settled_push (absent : Entry.findByUuid (d.entriesAt a) u = none) (own : body.uuid = u) :
    Entry.Settled u body ((d.push a body).entriesAt a) := by
  have none_owned : Entry.owned u (d.entriesAt a) = [] :=
    Entry.owned_eq_nil_iff.mpr (Entry.findByUuid_eq_none_iff.mp absent)
  have stored_owned : Entry.owned u [d.stored body] = [d.stored body] := by
    simp [Entry.owned, stored, own]
  refine ⟨d.stored body, ?_, ⟨rfl, rfl, rfl, rfl⟩⟩
  rw [entriesAt_push, if_pos rfl]
  simp only [Entry.owned, List.filter_append] at none_owned stored_owned ⊢
  rw [none_owned, stored_owned, List.nil_append]

variable {e : Entry}

theorem owned_mapAt_amend (hd : Entry.Distinct (d.entriesAt a)) (held : e ∈ d.entriesAt a)
    (own : e.uuid = u) :
    Entry.owned u ((d.mapAt a (amend e.id body)).entriesAt a) = [e.withSettings body] := by
  subst own
  rw [entriesAt_mapAt d a rfl, if_pos rfl, hd.owned_amend held]

theorem relieved_drop (ids : ((d.entriesAt a).map (·.id)).Nodup)
    (first : Entry.findByUuid (d.entriesAt a) u = some e) : Entry.Relieved u (d.entriesAt a)
      ((d.mapAt a fun l => l.filter fun f => f.id ≠ e.id).entriesAt a) := by
  rw [entriesAt_mapAt d a rfl, if_pos rfl]
  exact Entry.relieved_drop ids first

end Daemons

/-- A node was handled: it failed and nothing changed, or its daemon was reached and the table at its
address was put right. -/
inductive Handled (u : String) (address? : Option String) (Right : List Entry → Prop)
    (d : Daemons) : Daemons → Bool → Prop where
  | failed : Handled u address? Right d d true
  | settled {d' : Daemons} (a : String) (found : address? = some a)
      (reached : d.unreachable.contains a = false) (revised : d.Revised u a d')
      (right : Right (d'.entriesAt a)) : Handled u address? Right d d' false

theorem Handled.imp {P Q : List Entry → Prop} {d d' : Daemons} {b : Bool}
    {address? address?' : Option String} (h : Handled u address? P d d' b)
    (found : ∀ a, address? = some a → address?' = some a) (imp : ∀ l, P l → Q l) :
    Handled u address?' Q d d' b := by
  cases h with
  | failed => exact .failed
  | settled a there reached revised right =>
    exact .settled a (found a there) reached revised (imp _ right)

/-- Whether a node is to be reported as failed. -/
def missed : Except (Report SyncError) NodeResult → Bool
  | .ok result => result.change = .rejected
  | .error _ => true

section Nodes

variable {w : World} {scheme : Scheme} {wl : Workload} {node space : String}

/-- What is asked of a pass that handles a node. What is right may depend on what the pass returns. -/
def World.Handles {α : Type} (w : World) (p : Pass α) (u : String) (address? : Option String)
    (Right : α → List Entry → Prop) (failed : α → Bool) : Prop :=
  w.Ensures p fun r v => w.Steady v ∧ Handled u address? (Right r) w.daemons v.daemons (failed r)

theorem World.Handles.imp {α : Type} {p : Pass α} {address? : Option String}
    {P Q : α → List Entry → Prop} {failed : α → Bool} (h : w.Handles p u address? P failed)
    (imp : ∀ r l, P r l → Q r l) : w.Handles p u address? Q failed :=
  World.Ensures.mono h fun r _ ⟨steady, handled⟩ => ⟨steady, handled.imp (fun _ there => there) (imp r)⟩

/-- Looking something up first changes nothing, and a node where that fails has failed. -/
theorem World.Finds.handles {α β : Type} {x : Attempt SyncError α} {f : α → Attempt SyncError β}
    {P : α → Prop} {address? : Option String} {Right : Except (Report SyncError) β → List Entry → Prop}
    {failed : Except (Report SyncError) β → Bool} (h : w.Finds x.run P)
    (fails : ∀ e, failed (.error e) = true)
    (hf : ∀ x, P x → ∀ v, w.Rests v → v.Handles (f x).run u address? Right failed) :
    w.Handles (x >>= f).run u address? Right failed := by
  refine World.Ensures.attemptBind h (fun x v ⟨rests, found⟩ => ?_) fun e v ⟨rests, _⟩ => ?_
  · refine (hf x (found x rfl) v rests).mono fun r v' ⟨steady, handled⟩ => ?_
    exact ⟨rests.toSteady.trans steady, rests.daemons ▸ handled⟩
  · rw [fails, rests.daemons]
    exact ⟨rests.toSteady, .failed⟩

/-- The workload has one entry, with these settings, and the id reported is that of the entry. -/
def Entry.Reported (u : String) (body : Entry) (r : Except (Report SyncError) NodeResult)
    (l : List Entry) : Prop :=
  ∃ e, owned u l = [e] ∧ e.SameSettings body ∧ ∀ result, r = .ok result → result.outcome.id = e.id

theorem handles_createEntry (hw : w.Unscripted) (own : body.uuid = u)
    (reached : w.daemons.unreachable.contains a = false)
    (absent : Entry.findByUuid (w.daemons.entriesAt a) u = none) :
    w.Handles (createEntry node a body).run u (some a) (Entry.Reported u body) missed := by
  subst own
  cases behaviour : w.daemons.behaviour.getD a .accept with
  | accept =>
    have served : w.daemons.serve (.create a body) =
        (.ok "Success: 201", w.daemons.push a body) := by
      rw [Daemons.serve, behaviour]
    refine World.ensures_served hw reached served (ensures_listed hw (fun away => ?_) fun _ => ?_)
    · -- The daemon that has just taken the entry is still reached.
      exact absurd away (by simpa [Daemons.push] using reached)
    · obtain ⟨e, held, same⟩ := Daemons.settled_push absent rfl
      have found : Entry.findByUuid ((w.daemons.push a body).entriesAt a) body.uuid = some e := by
        rw [Entry.findByUuid_eq_head?, held, List.head?_cons]
      have named (result : NodeResult)
          (h : (.ok ⟨.ofEntry "Success: 201" e, .created⟩ : Except (Report SyncError) NodeResult) =
            .ok result) : result.outcome.id = e.id :=
        Except.ok.inj h ▸ rfl
      simp only [found]
      exact ⟨⟨rfl, rfl⟩, .settled a rfl reached (Daemons.revised_push rfl) ⟨e, held, same, named⟩⟩
  | drop =>
    have served : w.daemons.serve (.create a body) = (.ok "Success: 200", w.daemons) := by
      rw [Daemons.serve, behaviour]
    refine World.ensures_served hw reached served
      (ensures_listed hw (fun _ _ => ⟨.refl w, .failed⟩) fun _ => ?_)
    rw [absent]
    exact ⟨.refl w, .failed⟩
  | reject =>
    have served : w.daemons.serve (.create a body) =
        (.error (.rejected 400 "not enough cache ways"), w.daemons) := by
      rw [Daemons.serve, behaviour]
    exact World.ensures_served hw reached served ⟨.refl w, .failed⟩

/-- The entry asked for on a node is the one of its cores. -/
def World.Wanted (w : World) (wl : Workload) (node : String) (l : List Entry) : Prop :=
  ∃ cores, w.cluster.cores? wl.spec node = some cores ∧
    Entry.Settled wl.uuid (.ofSpec wl.uuid cores wl.spec) l

/-- It is there, and reported by its id. -/
def Cluster.Placed (k : Cluster) (wl : Workload) (node : String)
    (r : Except (Report SyncError) NodeResult) (l : List Entry) : Prop :=
  ∃ cores, k.cores? wl.spec node = some cores ∧
    Entry.Reported wl.uuid (.ofSpec wl.uuid cores wl.spec) r l

theorem places_syncNode (hw : w.Unscripted)
    (distinct : ∀ a, w.cluster.address? scheme node space = some a →
      Entry.Distinct (w.daemons.entriesAt a)) :
    w.Handles (syncNode scheme wl node space).run wl.uuid (w.cluster.address? scheme node space)
      (w.cluster.Placed wl node) missed := by
  refine (finds_daemonAddress w scheme node space).handles (fun _ => rfl) fun a found v rests => ?_
  refine (finds_resolveCores v wl.spec node).handles (fun _ => rfl) fun cores chosen x rests' => ?_
  rw [rests.cluster] at chosen
  have rests := rests.trans rests'
  have hx : x.Unscripted := rests.unscripted hw
  refine ensures_listed hx (fun _ _ => ⟨.refl x, .failed⟩) fun reached => ?_
  cases listed : Entry.findByUuid (x.daemons.entriesAt a) wl.uuid with
  | none =>
    refine (handles_createEntry hx rfl reached listed).mono fun r y ⟨steady, handled⟩ => ?_
    exact ⟨steady, handled.imp (fun _ h => h ▸ found) fun l hl => ⟨cores, chosen, hl⟩⟩
  | some e =>
    obtain ⟨held, own⟩ := Entry.mem_of_findByUuid listed
    have there : (x.daemons.entriesAt a).any (fun f => f.id = e.id) = true :=
      List.any_eq_true.mpr ⟨e, held, by simp⟩
    let body := Entry.ofSpec wl.uuid cores wl.spec
    have served : x.daemons.serve (.update a e.id body) =
        (.ok "Success: 200", x.daemons.mapAt a (Daemons.amend e.id body)) := by
      rw [Daemons.serve, if_pos there]
    have hd : Entry.Distinct (x.daemons.entriesAt a) := rests.daemons ▸ distinct a found
    have amended : Entry.owned wl.uuid ((x.daemons.mapAt a (Daemons.amend e.id body)).entriesAt a) =
        [e.withSettings body] := Daemons.owned_mapAt_amend hd held own
    have named (result : NodeResult)
        (h : (.ok ⟨.ofEntry "Success: 200" e, .updated⟩ : Except (Report SyncError) NodeResult) =
          .ok result) : result.outcome.id = (e.withSettings body).id :=
      Except.ok.inj h ▸ rfl
    refine World.ensures_served hx reached served ⟨⟨rfl, rfl⟩, .settled a found reached ?_ ?_⟩
    · exact Daemons.revised_mapAt rfl (own ▸ hd.foreign_amend held body)
    · exact ⟨cores, chosen, e.withSettings body, amended, ⟨rfl, rfl, rfl, rfl⟩, named⟩

theorem handles_syncNode (hw : w.Unscripted)
    (distinct : ∀ a, w.cluster.address? scheme node space = some a →
      Entry.Distinct (w.daemons.entriesAt a)) :
    w.Handles (syncNode scheme wl node space).run wl.uuid (w.cluster.address? scheme node space)
      (fun _ => w.Wanted wl node) missed := by
  refine (places_syncNode hw distinct).imp ?_
  rintro r l ⟨cores, chosen, e, only, same, -⟩
  exact ⟨cores, chosen, e, only, same⟩

/-- A node from which a workload is removed without failure has an address, and the first entry of the
workload there is gone. -/
theorem relieves_removeFromNode (hw : w.Unscripted)
    (ids : ∀ a, w.cluster.address? scheme node space = some a →
      ((w.daemons.entriesAt a).map (·.id)).Nodup) :
    w.Handles (removeFromNode scheme u node space).run u (w.cluster.address? scheme node space)
      (fun _ l => ∃ a, w.cluster.address? scheme node space = some a ∧
        Entry.Relieved u (w.daemons.entriesAt a) l) (fun r => !r.isOk) := by
  refine (finds_daemonAddress w scheme node space).handles (fun _ => rfl) fun a found v rests => ?_
  have hv : v.Unscripted := rests.unscripted hw
  rw [← rests.daemons] at ids ⊢
  refine ensures_listed hv (fun _ _ => ⟨.refl v, .failed⟩) fun reached => ?_
  cases listed : Entry.findByUuid (v.daemons.entriesAt a) u with
  | none =>
    have untouched := Entry.relieved_absent listed
    exact ⟨.refl v, .settled a found reached (.refl u a _) ⟨a, found, untouched⟩⟩
  | some e =>
    obtain ⟨held, own⟩ := Entry.mem_of_findByUuid listed
    have relieved := Daemons.relieved_drop (ids a found) listed
    refine World.ensures_served hv reached rfl
      ⟨⟨rfl, rfl⟩, .settled a found reached ?_ ⟨a, found, relieved⟩⟩
    exact Daemons.revised_mapAt rfl (Entry.foreign_drop (ids a found) held own)

/-- Where it had one entry at most, it has none then. -/
theorem handles_removeFromNode (hw : w.Unscripted)
    (distinct : ∀ a, w.cluster.address? scheme node space = some a →
      Entry.Distinct (w.daemons.entriesAt a)) :
    w.Handles (removeFromNode scheme u node space).run u (w.cluster.address? scheme node space)
      (fun _ l => Entry.owned u l = []) (fun r => !r.isOk) := by
  refine (relieves_removeFromNode hw fun a found => (distinct a found).ids).imp ?_
  rintro r l ⟨a, found, relieved⟩
  have single := (distinct a found).length_owned_le u
  rw [relieved.owned, ← List.length_eq_zero_iff, List.length_tail]
  omega

end Nodes

end CachePartition
