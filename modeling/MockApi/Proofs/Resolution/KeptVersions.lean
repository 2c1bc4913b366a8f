import MockApi.Json.Printer
import MockApi.Proofs.Resolution.Interchange
import MockApi.Proofs.Resolution.Locality
import MockApi.Proofs.Store.Versions

/-! What a kept version is worth. New definitions leave a schema its version if its fields have the
same contents; a tree from before then gives the payloads of a new one, as long as the fields show
nothing that equality of contents does not look at. -/
namespace MockApi

/-- The same draws are made field by field, and for the object of any schema with these fields. -/
def Node.SameDraws (as bs : List (String × Node)) : Prop :=
  FieldsIndistinct as bs ∧ ∀ schema, (object schema as).Indistinct (object schema bs)

namespace Store

variable {store : Store} {changes : List Change}

/-- A version that new definitions leave as it is stands for fields with the same contents. -/
theorem sameFields_of_kept (htidy : store.Tidy) {definitions : Definitions}
    (hunique : (definitions.schemas.map (·.id)).Nodup) {next : Store}
    (hnext : store.replaceAll definitions = some next) {id : String} {old new : Schema}
    (hold : store.schema? id = some old) (hnew : next.schema? id = some new)
    (hversion : new.version = old.version) : sameFields old.fields new.fields = true := by
  cases passage_replaceAll htidy hunique hnext id with
  | stays before after hbefore hafter _ hsame =>
    rw [hold, Option.some_inj] at hbefore
    rw [hnew, Option.some_inj] at hafter
    rw [hbefore, hafter]
    exact hsame
  | gone hnone => simp [hnew] at hnone
  | renewed after hafter hlt =>
    rw [hnew, Option.some_inj] at hafter
    have hlast := hlt old.version (last?_of_schema? hold)
    rw [← hafter, hversion] at hlast
    exact (UInt64.lt_irrefl _ hlast).elim

/-- A schema that has the version of an earlier state has the contents of that state. -/
theorem sameFields_after (htidy : store.Tidy) (hunique : ∀ change ∈ changes, change.UniqueIds)
    (hfits : store.Fits changes) {id : String} {old new : Schema}
    (hold : store.schema? id = some old) (hnew : (store.after changes).schema? id = some new)
    (hversion : new.version = old.version) : sameFields old.fields new.fields = true := by
  have hfields : OfFields fun schema => sameFields old.fields schema.fields = true :=
    fun _ _ hR hP => sameFields_trans hP hR
  have hstart : (store.after (changes.take 0)).Remembers id old.version fun schema =>
      sameFields old.fields schema.fields = true :=
    remembers_of_schema? hold (sameFields_refl old.fields)
  have hlater := hstart.of_le hunique htidy hfits hfields (Nat.zero_le changes.length)
  rw [List.take_length] at hlater
  exact hlater.holds new hnew hversion

end Store

/-- A tree that is current gives what a new one gives. Only its dependencies matter: a state in
which all else is as before lies between the two. -/
theorem Tree.current_answers {store : Store} {changes : List Change} (htidy : store.Tidy)
    (hunique : ∀ change ∈ changes, change.UniqueIds) (hfits : store.Fits changes)
    {limits : Limits} {root : String} {tree : Tree}
    (htree : resolve limits store.schema? root = .ok tree)
    (hcurrent : tree.current (store.after changes).version? = true)
    (hsettled : ∀ id ∈ Keyed.keys tree.dependencies, ∀ old new, store.schema? id = some old →
      (store.after changes).schema? id = some new → FieldsSettled old.fields new.fields) :
    ∃ fresh, resolve limits (store.after changes).schema? root = .ok fresh ∧
      fresh.dependencies = tree.dependencies ∧
      ∀ source, fresh.root.synthesizeFrom source = tree.root.synthesizeFrom source := by
  have hlater := htidy.after changes
  let between (id : String) : Option Schema :=
    if id ∈ Keyed.keys tree.dependencies then (store.after changes).schema? id
    else store.schema? id
  have hrel (id : String) :
      Option.Rel Schema.Interchangeable (store.schema? id) (between id) := by
    by_cases hid : id ∈ Keyed.keys tree.dependencies
    · obtain ⟨entry, hentry, rfl⟩ := List.mem_map.mp hid
      obtain ⟨old, hold, hversion⟩ := dependencies_of_resolve htidy.ownId htree entry hentry
      have hkept : (store.after changes).version? entry.1 = some entry.2 := by
        simpa using List.all_eq_true.mp hcurrent entry hentry
      obtain ⟨new, hnew, hnewVersion⟩ := Option.map_eq_some_iff.mp hkept
      have hsame := Store.sameFields_after htidy hunique hfits hold hnew
        (hnewVersion.trans hversion.symm)
      simp only [between, hid, ↓reduceIte, hold, hnew]
      exact .some ⟨(htidy.ownId _ _ hold).trans (hlater.ownId _ _ hnew).symm,
        hversion.trans hnewVersion.symm,
        interchangeable_of_sameFields hsame (hsettled entry.1 hid old new hold hnew)⟩
    · simp only [between, hid, ↓reduceIte]
      cases store.schema? id with
      | none => exact .none
      | some schema => exact .some (.refl schema)
  have hown : OwnIds between := by
    intro id schema hs
    by_cases hid : id ∈ Keyed.keys tree.dependencies
    · exact hlater.ownId id schema (by simpa only [between, hid, ↓reduceIte] using hs)
    · exact htidy.ownId id schema (by simpa only [between, hid, ↓reduceIte] using hs)
  rcases resolve_agree hrel limits root with ⟨failure, herror, -⟩ |
    ⟨found, fresh, hfound, hfresh, hdependencies, hindistinct⟩
  · exact nomatch htree.symm.trans herror
  · obtain rfl : found = tree := Except.ok.inj (hfound.symm.trans htree)
    refine ⟨fresh, resolve_of_alike hown hfresh fun entry hentry schema hs => ?_,
      hdependencies.symm, fun source => ?_⟩
    · have hid : entry.1 ∈ Keyed.keys found.dependencies :=
        List.mem_map_of_mem (hdependencies ▸ hentry)
      simp only [between, hid, ↓reduceIte] at hs
      exact ⟨schema, hs, .refl schema⟩
    · exact congrArg (fun draw => draw.run.run source) (hindistinct FieldPath.root).symm

/-- Where new definitions leave a schema its version, its fields and the objects made of them draw
as before; and a tree that is still current after any changes gives what a new tree gives, failures
and what is left of the source included. Of the fields it is asked that each is definite or the very
same: the order of names and the signs of zeros are not looked at when versions are given. -/
theorem kept_version_keeps_payloads {store : Store} (hstore : store.Reachable) :
    (∀ (definitions : Definitions) next, (definitions.schemas.map (·.id)).Nodup →
      store.replaceAll definitions = some next → ∀ id old new, store.schema? id = some old →
      next.schema? id = some new → new.version = old.version →
      FieldsSettled old.fields new.fields → ∀ limits nested other path,
        (∀ path id, Resolve.Agree Node.Indistinct (nested path id) (other path id)) →
        Resolve.Agree Node.SameDraws (Resolve.fieldNodes limits nested path old.fields)
          (Resolve.fieldNodes limits other path new.fields)) ∧
    ∀ changes : List Change, (∀ change ∈ changes, change.UniqueIds) → store.Fits changes →
      ∀ limits root tree, resolve limits store.schema? root = .ok tree →
      tree.current (store.after changes).version? = true →
      (∀ id ∈ Keyed.keys tree.dependencies, ∀ old new, store.schema? id = some old →
        (store.after changes).schema? id = some new → FieldsSettled old.fields new.fields) →
      ∃ fresh, resolve limits (store.after changes).schema? root = .ok fresh ∧
        fresh.dependencies = tree.dependencies ∧
        ∀ source, fresh.root.synthesizeFrom source = tree.root.synthesizeFrom source := by
  refine ⟨fun definitions next hunique hnext id old new hold hnew hversion hsettled limits nested
    other path hnested => ?_, fun changes hunique hfits limits root tree htree hcurrent hsettled =>
      Tree.current_answers hstore.tidy hunique hfits htree hcurrent hsettled⟩
  have hsame := Store.sameFields_of_kept hstore.tidy hunique hnext hold hnew hversion
  have hfields := interchangeable_of_sameFields hsame hsettled
  exact (Resolve.fieldNodes_agree hnested hfields).mono fun as bs hnodes =>
    ⟨hnodes, fun schema => hnodes.object schema⟩

/-- New definitions give the bounds of an age the other way round: the version is kept, and the old
tree draws the ages of the new one. -/
theorem reordered_bounds_keep_payloads :
    let user := fun params => Schema.ofFields "user"
      [⟨"age", .leaf ⟨"integer", Params.ofMembers params⟩⟩]
    let old := user [("min", .int 18), ("max", .int 90)]
    let new := user [("max", .int 90), ("min", .int 18)]
    let store := Store.ofDefinitions ⟨[old], [], []⟩
    let change := Change.replaceAll ⟨[new], [], []⟩
    store.Reachable ∧ store.Fits [change] ∧ (store.after [change]).schema? "user" = some new ∧
      (∀ nested path, Resolve.Agree Node.SameDraws
        (Resolve.fieldNodes Limits.standard nested path old.fields)
        (Resolve.fieldNodes Limits.standard nested path new.fields)) ∧
      ∃ tree fresh, resolve Limits.standard store.schema? "user" = .ok tree ∧
        tree.current (store.after [change]).version? = true ∧
        resolve Limits.standard (store.after [change]).schema? "user" = .ok fresh ∧
        ∀ source, fresh.root.synthesizeFrom source = tree.root.synthesizeFrom source := by
  intro user old new store change
  let binding : Binding := ⟨"integer", Params.ofMembers [("min", .int 18), ("max", .int 90)]⟩
  have hdefinite : binding.Definite := by
    intro generator hgenerator
    obtain rfl : Generator.integer = generator := Option.some.inj hgenerator
    have hkinds : ∀ spec ∈ Generator.integer.params, spec.kind = .integer := by decide
    exact ⟨by decide, fun spec hspec _ _ haccepts =>
      ParamKind.rigid_of_accepts (.inl (hkinds spec hspec)) haccepts⟩
  have hsettled : FieldsSettled old.fields new.fields := by
    intro pair hpair
    obtain rfl := List.mem_singleton.mp hpair
    exact .inl hdefinite
  have hstore : store.Reachable := ⟨_, [], rfl⟩
  have hunique : ∀ other ∈ [change], other.UniqueIds := by
    simp [change, Change.UniqueIds]
  have hchange : store.ChangeFits change := rfl
  have hold : store.schema? "user" = some old := rfl
  have hnew : (store.after [change]).schema? "user" = some new := rfl
  let tree : Tree := ⟨"user", .object "user" [("age", .leaf binding)], [("user", 0)]⟩
  have htree : resolve Limits.standard store.schema? "user" = .ok tree := rfl
  have hcurrent : tree.current (store.after [change]).version? = true := rfl
  obtain ⟨hfields, htrees⟩ := kept_version_keeps_payloads hstore
  obtain ⟨fresh, hfresh, -, hdraws⟩ := htrees [change] hunique ⟨hchange, trivial⟩ Limits.standard
    "user" tree htree hcurrent fun id hid before after hbefore hafter => by
      obtain rfl : id = "user" := List.mem_singleton.mp hid
      cases hbefore
      cases hafter
      exact hsettled
  refine ⟨hstore, ⟨hchange, trivial⟩, hnew, fun nested path => ?_, tree, fresh, htree, hcurrent,
    hfresh, hdraws⟩
  exact hfields ⟨[new], [], []⟩ (store.after [change]) (by simp) rfl "user" old new hold hnew rfl
    hsettled Limits.standard nested nested path
    fun path id => .refl Node.Indistinct.refl (nested path id)

/-- A user with one generated field goes over to other parameters. The version is kept, an old tree
stays current, and with every source it gives another outcome than a new tree. -/
def Store.HidesChange (generator : String) (old new : Params)
    (shown hidden : Except (Abort Failure) Json) : Prop :=
  let user := fun params => Schema.ofFields "user" [⟨"id", .leaf ⟨generator, params⟩⟩]
  let store := ofDefinitions ⟨[user old], [], []⟩
  ∃ reloaded, store.replaceAll ⟨[user new], [], []⟩ = some reloaded ∧
    reloaded.version? "user" = store.version? "user" ∧
    ∃ tree fresh, resolve Limits.standard store.schema? "user" = .ok tree ∧
      tree.current reloaded.version? = true ∧
      resolve Limits.standard reloaded.schema? "user" = .ok fresh ∧
      ∀ source, (tree.root.synthesizeFrom source).1 = shown ∧
        (fresh.root.synthesizeFrom source).1 = hidden

/-- Hidden from the versions: the order of members in a value that is copied, the sign of a zero,
and the order of names that are not declared, of which the first one is complained of. -/
theorem kept_version_hides_change :
    let ab : Json := .obj [("a", .int 1), ("b", .int 2)]
    let ba : Json := .obj [("b", .int 2), ("a", .int 1)]
    let record := fun value : Json => Json.obj [("id", value)]
    let refusal := fun name : String =>
      Failure.badParameters "uuid" ("unknown parameter '" ++ name ++ "'") "id"
    (record ab).render = "\x7b\"id\":\x7b\"a\":1,\"b\":2\x7d\x7d" ∧
    (record ba).render = "\x7b\"id\":\x7b\"b\":2,\"a\":1\x7d\x7d" ∧
    Store.HidesChange "constant" (Params.ofMembers [("value", ab)])
      (Params.ofMembers [("value", ba)]) (.ok (record ab)) (.ok (record ba)) ∧
    Store.HidesChange "constant" (Params.ofMembers [("value", .float .zero)])
      (Params.ofMembers [("value", .float .negZero)]) (.ok (record (.float .zero)))
      (.ok (record (.float .negZero))) ∧
    Store.HidesChange "uuid" (Params.ofMembers [("x", .null), ("y", .null)])
      (Params.ofMembers [("y", .null), ("x", .null)]) (.error (.fault (refusal "x")))
      (.error (.fault (refusal "y"))) := by
  intro ab ba record refusal
  refine ⟨rfl, rfl, ?_, ?_, ?_⟩ <;>
    exact ⟨_, rfl, .trans (b := some 0) rfl rfl, _, _, rfl, rfl, rfl, fun source => ⟨rfl, rfl⟩⟩

end MockApi
