import ClusterLaunch.Proofs.Guard
import ClusterLaunch.Proofs.Value.Nesting
import ClusterLaunch.Yaml.Meaning

/-! # The keys of a mapping

An entry takes the place of the one with the same key, so no two keys of a mapping in a document
are the same.
-/

namespace ClusterLaunch

def Distinct (keys : List Scalar) : Prop := keys.Pairwise fun a b => a.sameKey b = false

theorem Scalar.map_fst_insert {α : Type} (key : Scalar) (value : α) (entries : List (Scalar × α)) :
    (Scalar.insert key value entries).map (·.1) =
      if entries.any (·.1.sameKey key) then entries.map (·.1) else entries.map (·.1) ++ [key] := by
  induction entries with
  | nil => rfl
  | cons entry entries ih =>
    obtain ⟨k, v⟩ := entry
    rw [Scalar.insert, List.any_cons]
    by_cases hk : k.sameKey key = true
    · rw [if_pos hk, hk, Bool.true_or, if_pos rfl]
      rfl
    · rw [if_neg hk, Bool.eq_false_iff.mpr hk, Bool.false_or, List.map_cons, ih]
      split <;> rfl

theorem Distinct.insert {α : Type} {entries : List (Scalar × α)}
    (h : Distinct (entries.map (·.1))) (key : Scalar) (value : α) :
    Distinct ((Scalar.insert key value entries).map (·.1)) := by
  rw [Scalar.map_fst_insert]
  split
  · exact h
  · rename_i hnew
    rw [Bool.not_eq_true, List.any_eq_false] at hnew
    refine List.pairwise_append.mpr ⟨h, List.pairwise_singleton _ _, ?_⟩
    rintro k hk _ hkey
    obtain ⟨entry, hentry, rfl⟩ := List.mem_map.mp hk
    rw [List.mem_singleton.mp hkey]
    exact Bool.eq_false_iff.mpr (hnew entry hentry)

def Collection.HasDistinctKeys : Collection → Prop
  | mapping entries => Distinct (entries.map (·.1))
  | _ => True

def Heap.HasDistinctKeys (h : Heap) : Prop := ∀ id, (h.get id).HasDistinctKeys

theorem Heap.HasDistinctKeys.distinct {h : Heap} {id : Nat} {entries : List (Scalar × Value)}
    (hh : h.HasDistinctKeys) (hid : h.get id = .mapping entries) :
    Distinct (entries.map (·.1)) := by
  have hdistinct := hh id
  rwa [hid] at hdistinct

theorem Heap.HasDistinctKeys.add {h : Heap} {c : Collection} (hh : h.HasDistinctKeys)
    (hc : c.HasDistinctKeys) : (h.add c).2.HasDistinctKeys :=
  forall_get_add (P := Collection.HasDistinctKeys) trivial hh hc

namespace Yaml.Build

/-- What a step of building values gives if it succeeds. -/
def Gives {α : Type} (P : α → Prop) (x : Build α) : Prop :=
  ∀ s a s', x.run s = .ok (a, s') → P a

variable {α β : Type} {P : α → Prop} {Q : β → Prop}

theorem gives_pure {a : α} (h : P a) : Gives P (pure a) := by
  rintro s _ s' hrun
  cases hrun
  exact h

theorem gives_throw (e : Error) : Gives P (throw e : Build α) := nofun

theorem gives_true (x : Build α) : Gives (fun _ => True) x := fun _ _ _ _ => trivial

theorem Gives.bind {x : Build α} {f : α → Build β} (hx : Gives P x)
    (hf : ∀ a, P a → Gives Q (f a)) : Gives Q (x >>= f) := by
  intro s b s' hrun
  rw [StateT.run_bind] at hrun
  obtain ⟨⟨a, t⟩, ha, hb⟩ := bind_eq_ok_iff.mp hrun
  exact hf a (hx s a t ha) t b s' hb

theorem Gives.map {x : Build α} {f : α → β} (hx : Gives P x) (hf : ∀ a, P a → Q (f a)) :
    Gives Q (f <$> x) := by
  rw [map_eq_pure_bind]
  exact hx.bind fun a ha => gives_pure (hf a ha)

theorem gives_foldlM {f : β → α → Build β} (hf : ∀ b a, Q b → Gives Q (f b a)) {b : β}
    (hb : Q b) (as : List α) : Gives Q (as.foldlM f b) := by
  induction as generalizing b with
  | nil => exact gives_pure hb
  | cons a as ih => exact (hf b a hb).bind fun b' hb' => ih hb'

theorem gives_entries (n : NodeId) :
    Gives (fun entries => Distinct (entries.map (·.1))) (entries n) := by
  refine (gives_true (merged n)).bind fun nodes _ => gives_foldlM ?_ .nil nodes
  rintro done ⟨k, v⟩ hdone
  refine (gives_true (value k)).bind fun key _ => ?_
  cases key with
  | scalar key => exact (gives_true (value v)).bind fun _ _ => gives_pure (hdone.insert key _)
  | collection id => exact gives_throw _

theorem gives_collection (n : NodeId) : Gives Collection.HasDistinctKeys (collection n) := by
  refine (gives_true get).bind fun b _ => ?_
  dsimp only
  split
  · exact (gives_true _).map fun _ _ => trivial
  · exact (gives_true _).map fun _ _ => trivial
  · exact (gives_true _).map fun _ _ => trivial
  · exact (gives_entries n).map fun _ h => h
  · exact (gives_true _).bind fun _ _ => gives_pure trivial
  · exact gives_throw _

theorem gives_fill (fuel : Nat) {heap : Heap} (h : heap.HasDistinctKeys) :
    Gives Heap.HasDistinctKeys (fill fuel heap) := by
  induction fuel generalizing heap with
  | zero => exact gives_pure h
  | succ fuel ih =>
    refine (gives_true get).bind fun b _ => ?_
    split
    · exact (gives_collection _).bind fun c hc => ih (h.add hc)
    · exact gives_pure h

end Yaml.Build

namespace Yaml

theorem hasDistinctKeys_of_data {i : Interpreter} {g : Graph} {n : NodeId} {d : Data}
    (h : g.data i n = .ok d) : d.heap.HasDistinctKeys := by
  unfold Graph.data at h
  obtain ⟨⟨_, s⟩, hrun, hd⟩ := bind_eq_ok_iff.mp h
  cases hd
  have hfill : Build.Gives Heap.HasDistinctKeys (Build.fill g.nodes.size { depth := i.writing }) :=
    Build.gives_fill _ fun _ => trivial
  have hbuild : Build.Gives (fun d : Data => d.heap.HasDistinctKeys) (do
      let v ← Build.value n
      return ⟨← Build.fill g.nodes.size { depth := i.writing }, v⟩) :=
    (Build.gives_true _).bind fun v _ => hfill.bind fun _ hheap => Build.gives_pure hheap
  exact hbuild _ _ _ hrun

/-- No two keys of a mapping in a document are the same, whatever interpreter reads it. -/
theorem hasDistinctKeys_of_read {text : String} {i : Interpreter} {d : Data}
    (h : read text i = .ok (some d)) : d.heap.HasDistinctKeys := by
  unfold read at h
  obtain ⟨graph, hgraph, h⟩ := bind_eq_ok_iff.mp h
  cases graph with
  | none => cases h
  | some node =>
    obtain ⟨_, hd, h⟩ := bind_eq_ok_iff.mp h
    cases h
    exact hasDistinctKeys_of_data hd

end Yaml

end ClusterLaunch
