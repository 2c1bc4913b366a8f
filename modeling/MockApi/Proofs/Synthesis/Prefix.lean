import MockApi.Proofs.Draw.Outcome
import MockApi.Proofs.Keyed
import MockApi.Synthesis

/-! Payloads keep what they begin with when fields or items are added behind: every draw is made at
its place, and none ahead of time. -/
namespace MockApi

variable {α β γ δ ε : Type}

/-- The first attempt is how the second one begins: its failures are those of the second, and a
value of the second stands behind a value of the first that goes with it. -/
structure Begins (Goes : α → β → Prop) (x : ExceptT ε Draw α) (y : ExceptT ε Draw β) : Prop where
  value : ∀ source b, (y.run.run source).1 = .ok b →
    ∃ a, (x.run.run source).1 = .ok a ∧ Goes a b
  failure : ∀ source e, (x.run.run source).1 = .error e → (y.run.run source).1 = .error e

namespace Begins

variable {Goes : α → β → Prop} {x : ExceptT ε Draw α} {y : ExceptT ε Draw β}

/-- What follows an attempt cannot change it. -/
theorem bind {P : α → Prop} {f : α → ExceptT ε Draw β} (hx : Yields P x)
    (hf : ∀ a, P a → Yields (Goes a) (f a)) : Begins Goes x (x >>= f) := by
  have hrun : ∀ source, (x >>= f).run.run source =
      (ExceptT.bindCont f (x.run.run source).1).run (x.run.run source).2 := fun _ => rfl
  constructor
  · intro source b hb
    rw [hrun] at hb
    cases hx' : (x.run.run source).1 with
    | error e =>
      rw [hx'] at hb
      exact nomatch (show Except.error e = Except.ok b from hb)
    | ok a =>
      rw [hx'] at hb
      exact ⟨a, rfl, hf a (hx source a hx') _ b hb⟩
  · intro source e he
    rw [hrun, he]
    rfl

theorem map {Goes' : γ → δ → Prop} {g : α → γ} {h : β → δ} (hxy : Begins Goes x y)
    (hgoes : ∀ a b, Goes a b → Goes' (g a) (h b)) : Begins Goes' (g <$> x) (h <$> y) := by
  have hrun {α β : Type} (x : ExceptT ε Draw α) (g : α → β) (source : Source) :
      ((g <$> x).run.run source).1 = (x.run.run source).1.map g := by
    rw [ExceptT.run_map]
    rfl
  constructor
  · intro source d hd
    rw [hrun] at hd
    cases hy : (y.run.run source).1 with
    | error e =>
      rw [hy] at hd
      cases hd
    | ok b =>
      rw [hy] at hd
      cases hd
      obtain ⟨a, ha, hab⟩ := hxy.value source b hy
      exact ⟨g a, by rw [hrun, ha]; rfl, hgoes a b hab⟩
  · intro source e he
    rw [hrun] at he ⊢
    cases hx : (x.run.run source).1 with
    | error e' =>
      rw [hx] at he
      cases he
      rw [hxy.failure source e hx]
      rfl
    | ok a =>
      rw [hx] at he
      cases he

/-- What is known of all values of the whole may be used. -/
theorem within {Q : β → Prop} (hxy : Begins Goes x y) (hy : Yields Q y) :
    Begins (fun a b => Goes a b ∧ Q b) x y := by
  refine ⟨fun source b hb => ?_, hxy.failure⟩
  obtain ⟨a, ha, hab⟩ := hxy.value source b hb
  exact ⟨a, ha, hab, hy source b hb⟩

theorem mapM {f : γ → ExceptT ε Draw α} (front back : List γ) :
    Begins (fun values all => values = all.take front.length) (front.mapM f)
      ((front ++ back).mapM f) := by
  rw [List.mapM_append]
  have hfront : Yields (fun values => values.length = front.length ∧ ∀ value ∈ values, True)
      (front.mapM f) := Yields.mapM fun _ _ => Yields.trivially _
  refine bind hfront fun values hvalues => ?_
  refine (Yields.trivially _).bind fun others _ => Yields.pure ?_
  rw [← hvalues.1, List.take_left]

end Begins

namespace Node

variable {path : FieldPath} {fields : List (String × Node)}

/-! ## Fields -/

/-- The member that a field becomes. -/
def synthesizeMember (path : FieldPath) (field : String × Node) :
    ExceptT (Abort Failure) Draw (String × Json) :=
  (fun value => (field.1, value)) <$> synthesizeAt (path.push (.field field.1)) field.2

/-- Without repeated names every field gets a member of its own, behind those that are there. -/
theorem synthesizeFields_eq_mapM {members : Keyed Json}
    (hunique : (Keyed.keys members ++ Keyed.keys fields).Nodup) :
    synthesizeFields path members fields =
      (fun new => Json.obj (members ++ new)) <$> fields.mapM (synthesizeMember path) := by
  induction fields generalizing members with
  | nil => simp [synthesizeFields]
  | cons field rest ih =>
    obtain ⟨name, node⟩ := field
    have hnew : name ∉ Keyed.keys members := fun hmem =>
      (List.nodup_append.mp hunique).2.2 name hmem name (by simp [Keyed.keys]) rfl
    have hrest (value : Json) :
        (Keyed.keys (members ++ [(name, value)]) ++ Keyed.keys rest).Nodup := by
      simpa [Keyed.keys] using hunique
    rw [synthesizeFields]
    simp only [Keyed.insert_of_not_mem hnew, ih (hrest _)]
    simp [synthesizeMember]

theorem synthesizeAt_object {schema : String} (hunique : Keyed.Unique fields) :
    synthesizeAt path (.object schema fields) =
      Json.obj <$> fields.mapM (synthesizeMember path) := by
  rw [synthesizeAt, synthesizeFields_eq_mapM (by simpa [Keyed.keys, Keyed.Unique] using hunique)]
  rfl

theorem synthesizeMembers_keys :
    Yields (fun members => Keyed.keys members = Keyed.keys fields)
      (fields.mapM (synthesizeMember path)) := by
  induction fields with
  | nil => exact Yields.pure rfl
  | cons field rest ih =>
    rw [List.mapM_cons]
    have hfirst : Yields (fun member => member.1 = field.1) (synthesizeMember path field) :=
      (Yields.trivially _).map fun _ _ => rfl
    refine hfirst.bind fun member hmember => ih.bind fun others hothers => Yields.pure ?_
    simp only [Keyed.keys, List.map_cons] at hothers ⊢
    rw [hmember, hothers]

/-- Fields behind others leave the members of those as they are. -/
theorem synthesizeAt_object_begins (path : FieldPath) {front back : List (String × Node)}
    (hunique : Keyed.Unique (front ++ back)) (schema : String) :
    Begins (fun short long => ∃ members, long = .obj members ∧
        Keyed.keys members = Keyed.keys (front ++ back) ∧
        short = .obj (members.take front.length))
      (synthesizeAt path (.object schema front))
      (synthesizeAt path (.object schema (front ++ back))) := by
  have hfront : Keyed.Unique front := hunique.sublist ((List.sublist_append_left _ _).map _)
  rw [synthesizeAt_object hunique, synthesizeAt_object hfront]
  refine ((Begins.mapM front back).within synthesizeMembers_keys).map ?_
  rintro values members ⟨rfl, hkeys⟩
  exact ⟨members, rfl, hkeys, rfl⟩

/-! ## Items -/

theorem synthesizeAt_list (n : Nat) (element : Node) :
    synthesizeAt path (.list (.fixed n) element) = Json.arr <$> (List.range n).mapM fun i =>
      synthesizeAt (path.push (.index i)) element := by
  rw [synthesizeAt, map_eq_pure_bind]
  rfl

/-- A list of more items begins with the items of the shorter one. -/
theorem synthesizeAt_list_begins (path : FieldPath) {n m : Nat} (h : n ≤ m) (element : Node) :
    Begins (fun short long => ∃ items, long = .arr items ∧ items.length = m ∧
        short = .arr (items.take n))
      (synthesizeAt path (.list (.fixed n) element))
      (synthesizeAt path (.list (.fixed m) element)) := by
  obtain ⟨k, rfl⟩ := Nat.exists_eq_add_of_le h
  rw [synthesizeAt_list, synthesizeAt_list]
  have hlength : Yields (fun items : List Json => items.length = (List.range (n + k)).length ∧
      ∀ item ∈ items, True)
      ((List.range (n + k)).mapM fun i => synthesizeAt (path.push (.index i)) element) :=
    Yields.mapM fun _ _ => Yields.trivially _
  rw [List.range_add] at hlength ⊢
  refine ((Begins.mapM _ _).within hlength).map ?_
  rintro values items ⟨rfl, hitems, -⟩
  simp only [List.length_append, List.length_range, List.length_map] at hitems ⊢
  exact ⟨items, rfl, hitems, rfl⟩

/-- With the same source, fields added behind others and items added to a list change nothing of
what stands in front of them; and what the fields in front are refused for, all of them are. -/
theorem payloads_begin_alike {front back : List (String × Node)}
    (hunique : Keyed.Unique (front ++ back)) (schema : String) {n m : Nat} (h : n ≤ m)
    (element : Node) (source : Source) :
    (∀ value, ((object schema (front ++ back)).synthesizeFrom source).1 = .ok value →
      ∃ members, value = .obj members ∧ Keyed.keys members = Keyed.keys (front ++ back) ∧
        ((object schema front).synthesizeFrom source).1 =
          .ok (.obj (members.take front.length))) ∧
    (∀ failure, ((object schema front).synthesizeFrom source).1 = .error failure →
      ((object schema (front ++ back)).synthesizeFrom source).1 = .error failure) ∧
    (∀ value, ((list (.fixed m) element).synthesizeFrom source).1 = .ok value →
      ∃ items, value = .arr items ∧ items.length = m ∧
        ((list (.fixed n) element).synthesizeFrom source).1 = .ok (.arr (items.take n))) := by
  have hobject := synthesizeAt_object_begins FieldPath.root hunique schema
  have hlist := synthesizeAt_list_begins FieldPath.root h element
  refine ⟨fun value hvalue => ?_, hobject.failure source, fun value hvalue => ?_⟩
  · obtain ⟨_, hshort, members, rfl, hkeys, rfl⟩ := hobject.value source value hvalue
    exact ⟨members, rfl, hkeys, hshort⟩
  · obtain ⟨_, hshort, items, rfl, hlength, rfl⟩ := hlist.value source value hvalue
    exact ⟨items, rfl, hlength, hshort⟩

/-- A count with a list behind it, and the first of two flags. -/
theorem order_begins_alike :
    let flag : Node := .leaf ⟨"boolean", Params.empty⟩
    let front : List (String × Node) := [("count", .leaf ⟨"integer", Params.empty⟩)]
    let back : List (String × Node) := [("flags", .list (.range 1 2) flag)]
    let source : Source := ⟨[], 0, [0, 0x80000000, 0, 0x40000000, 0, 0x20000000, 0, 0, 7, 7]⟩
    Keyed.Unique (front ++ back) ∧ 1 ≤ 2 ∧
      (∃ members, ((object "order" (front ++ back)).synthesizeFrom source).1 = .ok (.obj members) ∧
        ((object "order" front).synthesizeFrom source).1 = .ok (.obj (members.take 1))) ∧
      ∃ items, ((list (.fixed 2) flag).synthesizeFrom source).1 = .ok (.arr items) ∧
        ((list (.fixed 1) flag).synthesizeFrom source).1 = .ok (.arr (items.take 1)) := by
  intro flag front back source
  have hunique : Keyed.Unique (front ++ back) := (by decide : ["count", "flags"].Nodup)
  have hle : 1 ≤ 2 := by decide
  obtain ⟨hobject, -, hlist⟩ := payloads_begin_alike hunique "order" hle flag source
  obtain ⟨members, hmembers, -, hfront⟩ := hobject _ rfl
  obtain ⟨items, hitems, -, hfirst⟩ := hlist _ rfl
  exact ⟨hunique, hle, ⟨members, hmembers ▸ rfl, hfront⟩, items, hitems ▸ rfl, hfirst⟩

end Node
end MockApi
