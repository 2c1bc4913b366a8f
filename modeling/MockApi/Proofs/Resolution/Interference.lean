import MockApi.Proofs.Cache.Session

/-! Resolution while the definitions change between its reads. A tree that is judged current
afterwards is the one of the last definitions if no schema was read in two versions; otherwise it
may mix the two, since only the later version is recorded. -/
namespace MockApi

/-! ## Definitions that change while they are read -/

/-- A store with the changes that come in before each of the next reads, and the schemas that were
read from it. -/
structure Shifting where
  store : Store
  ahead : List (List Change)
  seen : List Schema

namespace Shifting

/-- Reads a schema, once the changes that come in before have been made. -/
def read (id : String) : StateM Shifting (Option Schema) :=
  modifyGet fun shifting =>
    let store := shifting.store.after (shifting.ahead.headD [])
    let schema := store.schema? id
    (schema, ⟨store, shifting.ahead.tail, shifting.seen ++ schema.toList⟩)

end Shifting

/-- Resolves a schema with changes in between, and gives what was read for it. -/
def resolveAmid (limits : Limits) (store : Store) (schedule : List (List Change)) (id : String) :
    Except Failure Tree × List Schema :=
  let (result, shifting) :=
    (Resolve.resolveReading limits Shifting.read id).run.run ⟨store, schedule, []⟩
  (result, shifting.seen)

namespace Shifting

/-- No change ahead runs out of versions, the last one leads to `last`, and every schema that was
read is remembered. -/
structure Sound (last : Store) (shifting : Shifting) : Prop where
  tidy : shifting.store.Tidy
  single : ∀ change ∈ shifting.ahead.flatten, change.Single
  fits : shifting.store.Fits shifting.ahead.flatten
  leads : shifting.store.after shifting.ahead.flatten = last
  remembers : ∀ schema ∈ shifting.seen,
    shifting.store.Remembers schema.id schema.version (· = schema)

variable {last : Store} {shifting : Shifting}

/-- At the end, a schema that was read is still there if its version is. -/
theorem Sound.schema?_of_version? (h : shifting.Sound last) {schema : Schema}
    (hseen : schema ∈ shifting.seen) (hversion : last.version? schema.id = some schema.version) :
    last.schema? schema.id = some schema := by
  have hlast : last.Remembers schema.id schema.version (· = schema) :=
    h.leads ▸ (h.remembers schema hseen).after_singles h.single h.fits
  obtain ⟨now, hnow, hnowVersion⟩ := Store.version?_eq_some_iff.mp hversion
  rw [hnow, hlast.holds now hnow hnowVersion]

theorem flatten_eq_headD_append {α : Type} (batches : List (List α)) :
    batches.flatten = batches.headD [] ++ batches.tail.flatten := by
  cases batches <;> rfl

theorem Sound.read (h : shifting.Sound last) (id : String) :
    ((Shifting.read id).run shifting).2.Sound last := by
  have hsplit := flatten_eq_headD_append shifting.ahead
  have hsingle := hsplit ▸ h.single
  obtain ⟨hnow, hlater⟩ := Store.Fits.append (hsplit ▸ h.fits)
  have htidy : (shifting.store.after (shifting.ahead.headD [])).Tidy := h.tidy.after _
  have hleads := hsplit ▸ h.leads
  rw [Store.after_append] at hleads
  refine ⟨htidy, ?_, hlater, hleads, ?_⟩
  · exact fun change hchange => hsingle change (List.mem_append_right _ hchange)
  · intro schema hschema
    obtain hseen | hread := List.mem_append.mp hschema
    · exact (h.remembers schema hseen).after_singles
        (fun change hchange => hsingle change (List.mem_append_left _ hchange)) hnow
    · have hfound := Option.mem_toList.mp hread
      have hown : schema.id = id := htidy.ownId id schema hfound
      exact Store.remembers_of_schema? (hown ▸ hfound) rfl

end Shifting

/-! ## What a step gives, against what was read in it -/

/-- Whatever comes in between, what a step gives goes with the schemas that it reads. -/
def Gives {α : Type} (last : Store) (P : List Schema → α → Prop)
    (x : ExceptT Failure (StateM Shifting) α) : Prop :=
  ∀ shifting : Shifting, shifting.Sound last → (x.run.run shifting).2.Sound last ∧
    ∃ more, (x.run.run shifting).2.seen = shifting.seen ++ more ∧
      ∀ a, (x.run.run shifting).1 = .ok a → P more a

namespace Gives

variable {α β : Type} {last : Store} {P : List Schema → α → Prop} {Q : List Schema → β → Prop}

theorem pure {a : α} (h : P [] a) : Gives last P (pure a) := by
  intro shifting hsound
  refine ⟨hsound, [], (List.append_nil _).symm, ?_⟩
  intro value hvalue
  cases hvalue
  exact h

theorem throw (failure : Failure) : Gives last P (throw failure) := by
  intro shifting hsound
  refine ⟨hsound, [], (List.append_nil _).symm, ?_⟩
  intro value hvalue
  cases hvalue

theorem ofExcept {result : Except Failure α} (h : ∀ a, result = .ok a → P [] a) :
    Gives last P (Resolve.ofExcept result) := by
  cases result with
  | error failure => exact throw failure
  | ok a => exact pure (h a rfl)

theorem bind {x : ExceptT Failure (StateM Shifting) α}
    {f : α → ExceptT Failure (StateM Shifting) β} (hx : Gives last P x)
    (hf : ∀ a first, P first a → Gives last (fun more b => Q (first ++ more) b) (f a)) :
    Gives last Q (x >>= f) := by
  intro shifting hsound
  obtain ⟨hsoundX, first, hseen, hvalue⟩ := hx shifting hsound
  have hrun : ((x >>= f).run.run shifting) =
      (ExceptT.bindCont f (x.run.run shifting).1).run (x.run.run shifting).2 := rfl
  rw [hrun]
  cases hresult : (x.run.run shifting).1 with
  | error failure =>
    refine ⟨hsoundX, first, hseen, ?_⟩
    intro value hnone
    cases hnone
  | ok a =>
    obtain ⟨hsoundF, more, hmore, hvalueF⟩ := hf a first (hvalue a hresult) _ hsoundX
    exact ⟨hsoundF, first ++ more, by rw [← List.append_assoc, ← hseen]; exact hmore, hvalueF⟩

theorem read (id : String) : Gives last
    (fun more schema => more = schema.toList ∧ ∀ found, schema = some found → found.id = id)
    (ExceptT.lift (Shifting.read id)) := by
  intro shifting hsound
  have hnext := hsound.read id
  refine ⟨hnext, _, rfl, ?_⟩
  intro schema hschema
  cases hschema
  exact ⟨rfl, fun found hfound => hnext.tidy.ownId id found hfound⟩

end Gives

namespace Resolve

variable {last : Store} {limits : Limits} {moving : Nested (StateM Shifting)} {nested : Nested Id}
  {path : FieldPath}

/-- The schema with the version in which it was read. -/
def readAs (schema : Schema) : String × UInt64 := (schema.id, schema.version)

/-- A result lists the versions of the schemas that were read, and if all of these are still there
at the end, it is what the same step gives then. -/
def Agrees {α : Type} (last : Store) (still : ExceptT Failure Id (α × Reads))
    (more : List Schema) (result : α × Reads) : Prop :=
  result.2 = more.map readAs ∧
    ((∀ schema ∈ more, last.schema? schema.id = some schema) → still = Except.ok result)

section Shapes

variable (hnested : ∀ path id, Gives last (Agrees last (nested path id)) (moving path id))

include hnested

theorem elementNode_agrees (element : Element) :
    Gives last (Agrees last (elementNode nested path element))
      (elementNode moving path element) := by
  cases element with
  | nested schema => exact hnested path schema
  | leaf binding =>
    refine Gives.bind (P := fun more node => more = [] ∧ leafNode path binding = .ok node)
      (.ofExcept fun node hnode => ⟨rfl, hnode⟩) ?_
    intro node first h
    obtain ⟨hfirst, hnode⟩ := h
    subst hfirst
    exact .pure ⟨rfl, fun _ => bind_eq_ok.mpr ⟨node, hnode, rfl⟩⟩

theorem shapeNode_agrees (shape : Shape) :
    Gives last (Agrees last (shapeNode limits nested path shape))
      (shapeNode limits moving path shape) := by
  cases shape with
  | nested schema => exact hnested path schema
  | leaf binding => exact elementNode_agrees hnested (.leaf binding)
  | list element count =>
    refine Gives.bind (P := fun more u => more = [] ∧ checkCount limits path count = .ok u)
      (.ofExcept fun u hu => ⟨rfl, hu⟩) ?_
    intro u first h
    obtain ⟨hfirst, hcount⟩ := h
    subst hfirst
    refine Gives.bind (elementNode_agrees hnested element) ?_
    intro result more h
    obtain ⟨hreads, hstill⟩ := h
    refine .pure ⟨by simpa using hreads, ?_⟩
    intro hthere
    have helement := hstill (by simpa using hthere)
    exact bind_eq_ok.mpr ⟨u, hcount, bind_eq_ok.mpr ⟨result, helement, rfl⟩⟩

theorem fieldNodes_agrees (fields : List Field) :
    Gives last (Agrees last (fieldNodes limits nested path fields))
      (fieldNodes limits moving path fields) := by
  induction fields with
  | nil => exact .pure ⟨rfl, fun _ => rfl⟩
  | cons field rest ih =>
    refine Gives.bind (shapeNode_agrees hnested field.shape) ?_
    intro result first h
    obtain ⟨hfirst, hshape⟩ := h
    refine Gives.bind ih ?_
    intro results more h
    obtain ⟨hmore, hrest⟩ := h
    refine .pure ⟨by simp [hfirst, hmore], ?_⟩
    intro hthere
    have hone := hshape fun schema hmem => hthere schema (by simp [hmem])
    have hothers := hrest fun schema hmem => hthere schema (by simp [hmem])
    exact fieldNodes_cons_eq_ok.mpr ⟨_, _, _, _, hone, hothers, rfl⟩

end Shapes

theorem schemaNode_agrees (limits : Limits) (last : Store) (n : Nat) (ancestors : List String)
    (path : FieldPath) (id : String) :
    Gives last (Agrees last (schemaNode (m := Id) limits last.schema? n ancestors path id))
      (schemaNode limits Shifting.read n ancestors path id) := by
  induction n generalizing ancestors path id with
  | zero =>
    rw [schemaNode.eq_def limits Shifting.read]
    by_cases hid : id ∈ ancestors
    · simp only [hid, ↓reduceIte]
      exact .throw _
    · simp only [hid, ↓reduceIte]
      exact .throw _
  | succ n ih =>
    rw [schemaNode.eq_def limits Shifting.read]
    by_cases hid : id ∈ ancestors
    · simp only [hid, ↓reduceIte]
      exact .throw _
    · simp only [hid, ↓reduceIte]
      refine Gives.bind (Gives.read id) ?_
      intro schema first h
      obtain ⟨hfirst, hown⟩ := h
      cases schema with
      | none => exact .throw _
      | some schema =>
        refine Gives.bind (fieldNodes_agrees (ih (ancestors ++ [schema.id])) schema.fields) ?_
        intro result more h
        obtain ⟨hreads, hstill⟩ := h
        refine .pure ⟨by simp [hfirst, hreads, readAs], ?_⟩
        intro hthere
        have hschema : last.schema? id = some schema := by
          rw [← hown schema rfl]
          exact hthere schema (by simp [hfirst])
        have hfields := hstill fun other hmem => hthere other (by simp [hmem])
        exact schemaNode_eq_ok.mpr
          ⟨hid, n, schema, result.1, result.2, rfl, hschema, hfields, rfl⟩

theorem resolveReading_agrees (limits : Limits) (last : Store) (id : String) :
    Gives last (fun more tree => tree.dependencies = Keyed.ofEntries (more.map readAs) ∧
        ((∀ schema ∈ more, last.schema? schema.id = some schema) →
          resolve limits last.schema? id = .ok tree))
      (resolveReading limits Shifting.read id) := by
  refine Gives.bind (schemaNode_agrees limits last limits.maxDepth [] FieldPath.root id) ?_
  intro result first h
  obtain ⟨hreads, hstill⟩ := h
  rw [← List.append_nil first] at hreads hstill
  refine .pure ⟨congrArg Keyed.ofEntries hreads, ?_⟩
  intro hthere
  exact resolve_eq_ok.mpr ⟨result.1, result.2, hstill hthere, rfl⟩

end Resolve

/-! ## Whole resolutions -/

/-- No schema was read in two versions. -/
def Unmixed (seen : List Schema) : Prop :=
  ∀ one ∈ seen, ∀ two ∈ seen, one.id = two.id → one.version = two.version

/-- Where no schema was read in two versions, each was read in the version that is recorded. -/
theorem Unmixed.mem_dependencies {seen : List Schema} (h : Unmixed seen) {schema : Schema}
    (hschema : schema ∈ seen) :
    (schema.id, schema.version) ∈ Keyed.ofEntries (seen.map Resolve.readAs) := by
  have hread : Resolve.readAs schema ∈ seen.map Resolve.readAs := List.mem_map_of_mem hschema
  have hkey := (Keyed.mem_keys_ofEntries schema.id _).mpr (List.mem_map_of_mem hread)
  obtain ⟨entry, hentry, hid⟩ := List.mem_map.mp hkey
  obtain ⟨other, hother, hread⟩ := List.mem_map.mp (Keyed.mem_of_mem_ofEntries hentry)
  subst hread
  have hversion : other.version = schema.version := h other hother schema hschema hid
  have heq : Resolve.readAs other = (schema.id, schema.version) := Prod.ext hid hversion
  exact heq ▸ hentry

/-- Schemas are inserted and removed between the reads of a resolution. If no schema was read in two
versions, a tree that is judged current at the end is the one that resolution gives then. -/
theorem unmixed_current_tree_is_fresh {store : Store} (hstore : store.Reachable) (limits : Limits)
    (id : String) {schedule : List (List Change)}
    (hsingle : ∀ change ∈ schedule.flatten, change.Single)
    (hfits : store.Fits schedule.flatten) {tree : Tree} {seen : List Schema}
    (hresolve : resolveAmid limits store schedule id = (.ok tree, seen)) (hunmixed : Unmixed seen)
    (hcurrent : tree.current (store.after schedule.flatten).version? = true) :
    resolve limits (store.after schedule.flatten).schema? id = .ok tree := by
  let start : Shifting := ⟨store, schedule, []⟩
  have hstart : start.Sound (store.after schedule.flatten) :=
    ⟨hstore.tidy, hsingle, hfits, rfl, fun schema hschema => nomatch hschema⟩
  obtain ⟨hsound, more, hmore, hgives⟩ :=
    Resolve.resolveReading_agrees limits (store.after schedule.flatten) id start hstart
  have hseen : seen = more := (congrArg Prod.snd hresolve).symm.trans hmore
  obtain ⟨hdependencies, hfresh⟩ := hgives tree (congrArg Prod.fst hresolve)
  rw [← hseen] at hdependencies hfresh
  apply hfresh
  intro schema hschema
  have hentry : (schema.id, schema.version) ∈ tree.dependencies :=
    hdependencies ▸ hunmixed.mem_dependencies hschema
  have hversion := (tree.current_iff _).mp hcurrent _ hentry
  exact hsound.schema?_of_version? (hmore ▸ hseen ▸ hschema) hversion

/-- A change that comes in before the first read, one of another schema before the second, and one
after the last. -/
theorem tree_between_changes_is_fresh :
    let street : Field := ⟨"street", .leaf ⟨"integer", Params.empty⟩⟩
    let address := Schema.ofFields "address" []
    let person := Schema.ofFields "person" [⟨"home", .nested "address"⟩]
    let store := Store.ofDefinitions ⟨[person, address], [], []⟩
    let schedule := [[Change.remove "person", .upsert person],
      [.upsert (.ofFields "address" [street]), .remove "other"], [.upsert (.ofFields "other" [])]]
    let seen := [{ person with version := 1 }, { address with version := 1, fields := [street] }]
    let home : Node := .object "address" [("street", .leaf ⟨"integer", Params.empty⟩)]
    let tree : Tree :=
      ⟨"person", .object "person" [("home", home)], [("person", 1), ("address", 1)]⟩
    store.Reachable ∧ (∀ change ∈ schedule.flatten, change.Single) ∧
      store.Fits schedule.flatten ∧
      resolveAmid .standard store schedule "person" = (.ok tree, seen) ∧ Unmixed seen ∧
      tree.current (store.after schedule.flatten).version? = true ∧
      resolve .standard (store.after schedule.flatten).schema? "person" = .ok tree := by
  intro street address person store schedule seen home tree
  have hstore : store.Reachable := ⟨_, [], rfl⟩
  have hsingle : ∀ change ∈ schedule.flatten, change.Single := by
    simp [schedule, Change.Single]
  have hfits : store.Fits schedule.flatten := ⟨trivial, rfl, rfl, trivial, rfl, trivial⟩
  have hresolve : resolveAmid .standard store schedule "person" = (.ok tree, seen) := rfl
  have hunmixed : Unmixed seen := by
    unfold Unmixed
    decide
  have hcurrent : tree.current (store.after schedule.flatten).version? = true := rfl
  exact ⟨hstore, hsingle, hfits, hresolve, hunmixed, hcurrent,
    unmixed_current_tree_is_fresh hstore .standard "person" hsingle hfits hresolve hunmixed
      hcurrent⟩

/-- A schema that is read twice and changes in between: only its later version is recorded, so that
a tree with both forms of it is judged current. -/
theorem mixed_tree_judged_current :
    let street : Field := ⟨"street", .leaf ⟨"integer", Params.empty⟩⟩
    let address := Schema.ofFields "address" []
    let person := Schema.ofFields "person"
      [⟨"home", .nested "address"⟩, ⟨"work", .nested "address"⟩]
    let store := Store.ofDefinitions ⟨[person, address], [], []⟩
    let schedule := [[], [], [Change.upsert (.ofFields "address" [street])]]
    let seen := [person, address, { address with version := 1, fields := [street] }]
    let work : Node := .object "address" [("street", .leaf ⟨"integer", Params.empty⟩)]
    let tree : Tree := ⟨"person",
      .object "person" [("home", .object "address" []), ("work", work)],
      [("person", 0), ("address", 1)]⟩
    store.Reachable ∧ (∀ change ∈ schedule.flatten, change.Single) ∧
      store.Fits schedule.flatten ∧
      resolveAmid .standard store schedule "person" = (.ok tree, seen) ∧
      tree.current (store.after schedule.flatten).version? = true ∧
      resolve .standard (store.after schedule.flatten).schema? "person" ≠ .ok tree := by
  intro street address person store schedule seen work tree
  have hstore : store.Reachable := ⟨_, [], rfl⟩
  have hsingle : ∀ change ∈ schedule.flatten, change.Single := by
    simp [schedule, Change.Single]
  have hfits : store.Fits schedule.flatten := ⟨rfl, trivial⟩
  refine ⟨hstore, hsingle, hfits, rfl, rfl, ?_⟩
  intro hfresh
  have hsize := congrArg (fun result => result.toOption.map fun tree => tree.root.size) hfresh
  exact absurd hsize (by decide)

end MockApi
