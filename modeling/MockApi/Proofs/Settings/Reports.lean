import Mathlib.Data.List.Induction
import MockApi.Proofs.Settings.Defects

/-! The check of settings reports every defect once, and nothing else. -/
namespace MockApi

open Defect (ReportedAs)

variable {settings : Settings} {part other : Defect → Prop} {faults more : List SettingsFault}

/-- The faults report, one by one and in some order, the defects of a part that occur. -/
def Reports (settings : Settings) (part : Defect → Prop) (faults : List SettingsFault) : Prop :=
  ∃ defects : List Defect, defects.Nodup ∧
    (∀ defect, defect ∈ defects ↔ part defect ∧ defect.Occurs settings) ∧
    List.Forall₂ (ReportedAs settings) defects faults

namespace Reports

theorem nil (h : ∀ defect, part defect → ¬defect.Occurs settings) : Reports settings part [] :=
  ⟨[], List.nodup_nil, fun defect => by simpa using h defect, .nil⟩

theorem single {defect : Defect} {fault : SettingsFault} (hoccurs : defect.Occurs settings)
    (h : ReportedAs settings defect fault) : Reports settings (· = defect) [fault] := by
  refine ⟨[defect], List.nodup_singleton defect, fun found => ?_, .cons h .nil⟩
  rw [List.mem_singleton]
  exact ⟨fun heq => ⟨heq, heq ▸ hoccurs⟩, And.left⟩

theorem congr (h : Reports settings part faults)
    (hiff : ∀ defect, defect.Occurs settings → (part defect ↔ other defect)) :
    Reports settings other faults := by
  obtain ⟨defects, hnodup, hmem, hreported⟩ := h
  exact ⟨defects, hnodup, fun defect => (hmem defect).trans (and_congr_left (hiff defect)),
    hreported⟩

theorem append (h : Reports settings part faults) (h' : Reports settings other more)
    (hapart : ∀ defect, part defect → ¬other defect) :
    Reports settings (fun defect => part defect ∨ other defect) (faults ++ more) := by
  obtain ⟨one, hone, hmem, hreported⟩ := h
  obtain ⟨two, htwo, hmem', hreported'⟩ := h'
  refine ⟨one ++ two, ?_, fun defect => ?_, List.rel_append hreported hreported'⟩
  · refine List.nodup_append.mpr ⟨hone, htwo, ?_⟩
    rintro defect hleft _ hright rfl
    exact hapart defect ((hmem defect).mp hleft).1 ((hmem' defect).mp hright).1
  · rw [List.mem_append, hmem, hmem', or_and_right]

theorem faultIf {condition : Bool} {fault : SettingsFault} {defect : Defect}
    (hiff : condition = true ↔ defect.Occurs settings)
    (h : ReportedAs settings defect fault) :
    Reports settings (· = defect) (Validation.faultIf condition fault) := by
  cases condition with
  | false => exact nil fun found heq hoccurs => nomatch hiff.mpr (heq ▸ hoccurs)
  | true => exact single (hiff.mp rfl) h

/-- Entry by entry; no defect belongs to two of them. -/
theorem eachAfter {α : Type} {check : List α → α → List SettingsFault}
    {part : Nat → Defect → Prop} {entries : List α}
    (hcheck : ∀ earlier entry rest, entries = earlier ++ entry :: rest →
      Reports settings (part earlier.length) (check earlier entry))
    (hplace : ∀ i j defect, part i defect → part j defect → i = j) :
    Reports settings (fun defect => ∃ i < entries.length, part i defect)
      (Validation.eachAfter check [] entries) := by
  have go : ∀ rest earlier, entries = earlier ++ rest →
      Reports settings (fun defect => ∃ i, earlier.length ≤ i ∧ i < entries.length ∧ part i defect)
        (Validation.eachAfter check earlier rest) := by
    intro rest
    induction rest with
    | nil =>
      intro earlier hentries
      have hlength : entries.length = earlier.length := by rw [hentries, List.append_nil]
      refine nil ?_
      rintro defect ⟨i, hle, hlt, -⟩
      omega
    | cons entry rest ih =>
      intro earlier hentries
      have hlength : earlier.length < entries.length := by simp [hentries]
      have hrest := ih (earlier ++ [entry]) (by simp [hentries])
      rw [List.length_append, List.length_singleton] at hrest
      refine ((hcheck earlier entry rest hentries).append hrest ?_).congr fun defect _ => ?_
      · rintro defect hhere ⟨i, hle, -, hthere⟩
        have := hplace _ _ defect hhere hthere
        omega
      · constructor
        · rintro (hhere | ⟨i, hle, hlt, hthere⟩)
          · exact ⟨_, Nat.le_refl _, hlength, hhere⟩
          · exact ⟨i, by omega, hlt, hthere⟩
        · rintro ⟨i, hle, hlt, h⟩
          rcases Nat.eq_or_lt_of_le hle with rfl | hlt'
          · exact .inl h
          · exact .inr ⟨i, hlt', hlt, h⟩
  exact (go entries [] rfl).congr fun defect _ => by simp

/-- Nothing is reported when there is nothing to report. -/
theorem eq_nil_iff (h : Reports settings part faults) :
    faults = [] ↔ ∀ defect, part defect → ¬defect.Occurs settings := by
  obtain ⟨defects, -, hmem, hreported⟩ := h
  constructor
  · rintro rfl defect hpart hoccurs
    cases hreported
    exact List.not_mem_nil ((hmem defect).mpr ⟨hpart, hoccurs⟩)
  · intro hnone
    cases hreported with
    | nil => rfl
    | cons =>
      obtain ⟨hpart, hoccurs⟩ := (hmem _).mp List.mem_cons_self
      exact (hnone _ hpart hoccurs).elim

end Reports

namespace Validation

/-! ## The address, the engine and the rate limit -/

theorem checkServer_reports : Reports settings
    (fun defect => defect = .emptyHost ∨ defect = .zeroPort) (checkServer settings.server) :=
  (Reports.faultIf (by simp [Defect.Occurs]) .emptyHost).append
    (Reports.faultIf (by simp [Defect.Occurs]) .zeroPort) (by rintro _ rfl ⟨⟩)

/-- A number is zero or above its bound. -/
theorem zero_or_above_iff {n bound : Nat} :
    (decide (n = 0) || decide (bound < n)) = true ↔ ¬(1 ≤ n ∧ n ≤ bound) := by
  rw [Bool.or_eq_true, decide_eq_true_eq, decide_eq_true_eq]
  omega

theorem checkEngine_reports : Reports settings
    (fun defect => ((defect = .badDepth ∨ defect = .badItems) ∨ defect = .emptyPlaceholder) ∨
      defect = .emptyDefaultProject) (checkEngine settings.engine) := by
  refine (((Reports.faultIf zero_or_above_iff .badDepth).append
    (Reports.faultIf zero_or_above_iff .badItems) ?_).append
    (Reports.faultIf (by simp [Defect.Occurs]) .emptyPlaceholder) ?_).append
    (Reports.faultIf (by simp [Defect.Occurs]) .emptyDefaultProject) ?_
  · rintro _ rfl ⟨⟩
  · rintro _ (rfl | rfl) ⟨⟩
  · rintro _ ((rfl | rfl) | rfl) ⟨⟩

theorem checkRateLimit_reports : Reports settings
    (fun defect => defect = .zeroRate ∨ defect = .zeroBurst) (checkRateLimit settings.rateLimit) := by
  cases hlimit : settings.rateLimit with
  | none =>
    refine Reports.nil ?_
    rintro _ (rfl | rfl) <;> simp [Defect.Occurs, hlimit]
  | some limit =>
    exact (Reports.faultIf (by simp [Defect.Occurs, hlimit]) .zeroRate).append
      (Reports.faultIf (by simp [Defect.Occurs, hlimit]) .zeroBurst) (by rintro _ rfl ⟨⟩)

/-! ## Entries of lists -/

section Entries

variable {α κ : Type} {earlier rest : List α} {entry : α}

theorem getElem?_concat_eq_some_iff {entries : List κ} {last k : κ} (hne : last ≠ k) {index : Nat} :
    (entries ++ [last])[index]? = some k ↔ entries[index]? = some k := by
  grind

theorem lastIndex?_concat [DecidableEq κ] {key : α → κ} {k : κ} :
    lastIndex? key k (earlier ++ [entry]) =
      if key entry = k then some earlier.length else lastIndex? key k earlier := by
  simp only [lastIndex?, List.zipIdx_append, List.zipIdx_singleton, List.reverse_append,
    List.reverse_singleton, List.singleton_append, List.find?_cons]
  by_cases h : key entry = k <;> simp [h]

theorem lastIndex?_eq_some_iff [DecidableEq κ] {key : α → κ} {k : κ} {entries : List α}
    {index : Nat} : lastIndex? key k entries = some index ↔ (entries.map key)[index]? = some k ∧
      ∀ later, index < later → (entries.map key)[later]? ≠ some k := by
  induction entries using List.reverseRecOn with
  | nil => simp [lastIndex?]
  | append_singleton earlier entry ih =>
    rw [lastIndex?_concat, List.map_append, List.map_singleton]
    split
    · next h =>
      subst h
      constructor
      · rintro ⟨⟩
        refine ⟨by simp, fun later hlt => ?_⟩
        rw [List.getElem?_eq_none (by simpa using Nat.succ_le_of_lt hlt)]
        exact nofun
      · rintro ⟨hindex, hlater⟩
        have hlt := (List.getElem?_eq_some_iff.mp hindex).1
        by_contra hne
        exact hlater earlier.length (by grind) (by simp)
    · next h => simp only [ih, getElem?_concat_eq_some_iff h, ne_eq]

theorem lastIndex?_eq_none_iff [DecidableEq κ] {key : α → κ} {k : κ} {entries : List α} :
    lastIndex? key k entries = none ↔ k ∉ entries.map key := by
  induction entries using List.reverseRecOn with
  | nil => simp [lastIndex?]
  | append_singleton earlier entry ih =>
    rw [lastIndex?_concat]
    by_cases h : key entry = k
    · simp [h]
    · simpa [h, Ne.symm h] using ih

/-- The key of an entry, and of those in front of it, among all keys. -/
theorem getElem?_keys_self {key : α → κ} :
    ((earlier ++ entry :: rest).map key)[earlier.length]? = some (key entry) := by
  simp

theorem getElem?_keys_of_lt {key : α → κ} {index : Nat} (h : index < earlier.length) :
    ((earlier ++ entry :: rest).map key)[index]? = (earlier.map key)[index]? := by
  rw [List.map_append, List.getElem?_append_left (by simpa using h)]

/-- What the check looks at, the entries in front, holds all that the place of an entry needs. -/
theorem nearestBefore_iff [DecidableEq κ] {key : α → κ} {index : Nat} :
    NearestBefore ((earlier ++ entry :: rest).map key) index earlier.length ↔
      lastIndex? key (key entry) earlier = some index := by
  rw [lastIndex?_eq_some_iff]
  constructor
  · rintro ⟨-, hlt, hsame, hnearest⟩
    rw [getElem?_keys_of_lt hlt, getElem?_keys_self] at hsame
    refine ⟨hsame, fun later hlater heq => ?_⟩
    have hfront : later < earlier.length := by
      simpa using (List.getElem?_eq_some_iff.mp heq).1
    refine hnearest later hlater hfront ?_
    rw [getElem?_keys_of_lt hfront, getElem?_keys_self, heq]
  · rintro ⟨hindex, hlater⟩
    have hlt : index < earlier.length := by
      simpa using (List.getElem?_eq_some_iff.mp hindex).1
    refine ⟨by simp, hlt, ?_, fun between hlow hhigh heq => ?_⟩
    · rw [getElem?_keys_of_lt hlt, getElem?_keys_self, hindex]
    · rw [getElem?_keys_of_lt hhigh, getElem?_keys_self] at heq
      exact hlater between hlow heq

theorem repeatedAt_iff_mem {key : α → κ} :
    RepeatedAt ((earlier ++ entry :: rest).map key) earlier.length ↔ key entry ∈ earlier.map key := by
  rw [List.mem_iff_getElem?]
  constructor
  · rintro ⟨-, index, hlt, hsame⟩
    rw [getElem?_keys_of_lt hlt, getElem?_keys_self] at hsame
    exact ⟨index, hsame⟩
  · rintro ⟨index, hindex⟩
    have hlt : index < earlier.length := by
      simpa using (List.getElem?_eq_some_iff.mp hindex).1
    refine ⟨by simp, index, hlt, ?_⟩
    rw [getElem?_keys_of_lt hlt, getElem?_keys_self, hindex]

theorem repeated_reports [DecidableEq κ] {key : α → κ} {fault : Nat → SettingsFault}
    {defect : Defect}
    (hoccurs : defect.Occurs settings ↔
      RepeatedAt ((earlier ++ entry :: rest).map key) earlier.length)
    (hreported : ∀ index,
      NearestBefore ((earlier ++ entry :: rest).map key) index earlier.length →
        ReportedAs settings defect (fault index)) :
    Reports settings (· = defect) (repeated key fault earlier entry) := by
  rw [repeatedAt_iff_mem] at hoccurs
  unfold repeated
  cases hlast : lastIndex? key (key entry) earlier with
  | none =>
    refine Reports.nil ?_
    rintro _ rfl
    rw [hoccurs]
    exact lastIndex?_eq_none_iff.mp hlast
  | some index =>
    refine Reports.single (hoccurs.mpr ?_) (hreported index (nearestBefore_iff.mpr hlast))
    exact List.mem_of_getElem? (lastIndex?_eq_some_iff.mp hlast).1

/-- The ids of a kind are those of the entries that are checked. -/
theorem checkId_reports {kind : Definable} {id : α → String}
    (hids : settings.ids kind = (earlier ++ entry :: rest).map id) :
    Reports settings (fun defect => defect = .emptyId kind earlier.length ∨
      defect = .repeatedId kind earlier.length) (checkId kind id earlier entry) := by
  have hself : (settings.ids kind)[earlier.length]? = some (id entry) := by
    rw [hids, getElem?_keys_self]
  refine (Reports.faultIf ?_ (.emptyId kind earlier.length)).append
    (repeated_reports (hids ▸ Iff.rfl) fun index hnearest => .repeatedId hself (hids ▸ hnearest)) ?_
  · simp [Defect.Occurs, hself]
  · rintro _ rfl ⟨⟩

end Entries

/-! ## Schemas -/

variable {schema : Schema}

theorem checkField_reports {index : Nat} {earlier rest : List Field} {field : Field}
    (hschema : settings.definitions.schemas[index]? = some schema)
    (hfields : schema.fields = earlier ++ field :: rest) :
    Reports settings (fun defect => defect = .emptyFieldName index earlier.length ∨
      defect = .repeatedFieldName index earlier.length) (checkField index schema.id earlier field) := by
  have hnames : schema.fieldNames = (earlier ++ field :: rest).map Field.name := by
    rw [Schema.fieldNames, hfields]
  have hname : schema.fieldNames[earlier.length]? = some field.name := by
    rw [hnames, getElem?_keys_self]
  have hempty : (Defect.emptyFieldName index earlier.length).Occurs settings ↔ field.name = "" := by
    simp [Defect.Occurs, hschema, hname]
  have hrepeated : (Defect.repeatedFieldName index earlier.length).Occurs settings ↔
      field.name ≠ "" ∧ field.name ∈ earlier.map Field.name := by
    have hbefore : RepeatedAt schema.fieldNames earlier.length ↔
        field.name ∈ earlier.map Field.name := hnames ▸ repeatedAt_iff_mem
    rw [← hbefore]
    simp [Defect.Occurs, hschema, hname]
  unfold checkField
  split
  · next h =>
    refine (Reports.single (hempty.mpr h) (.emptyFieldName index earlier.length)).congr ?_
    rintro defect hoccurs
    refine ⟨Or.inl, ?_⟩
    rintro (heq | rfl)
    · exact heq
    · exact ((hrepeated.mp hoccurs).1 h).elim
  · next h =>
    refine (Reports.faultIf ?_ (.repeatedFieldName hschema hname)).congr ?_
    · rw [hrepeated, List.any_eq_true]
      simp [h]
    · rintro defect hoccurs
      refine ⟨Or.inr, ?_⟩
      rintro (rfl | heq)
      · exact (h (hempty.mp hoccurs)).elim
      · exact heq

theorem checkSchema_reports {earlier rest : List Schema}
    (hschemas : settings.definitions.schemas = earlier ++ schema :: rest) :
    Reports settings (fun defect => defect.entry? = some (.schema, earlier.length))
      (checkSchema earlier schema) := by
  have hschema : settings.definitions.schemas[earlier.length]? = some schema := by
    simp [hschemas]
  have hids : settings.ids .schema = (earlier ++ schema :: rest).map Schema.id := by
    rw [Settings.ids, hschemas]
  have hfields : Reports settings (fun defect => ∃ i < schema.fields.length,
      defect = .emptyFieldName earlier.length i ∨ defect = .repeatedFieldName earlier.length i)
      (eachAfter (checkField earlier.length schema.id) [] schema.fields) := by
    refine Reports.eachAfter (fun front field back hfront => checkField_reports hschema hfront) ?_
    rintro i j _ (rfl | rfl) (h | h) <;> cases h <;> rfl
  refine ((checkId_reports hids).append hfields ?_).congr fun defect hoccurs => ?_
  · rintro _ (rfl | rfl) ⟨_, -, h | h⟩ <;> cases h
  · have hlength : schema.fieldNames.length = schema.fields.length := List.length_map _
    cases defect <;> simp [Defect.entry?]
    case emptyFieldName index field =>
      rintro rfl
      obtain ⟨_, hfound, hempty⟩ := hoccurs
      cases hschema.symm.trans hfound
      exact hlength ▸ (List.getElem?_eq_some_iff.mp hempty).1
    case repeatedFieldName index field =>
      rintro rfl
      obtain ⟨_, hfound, -, hrepeated⟩ := hoccurs
      cases hschema.symm.trans hfound
      exact hlength ▸ hrepeated.1

/-! ## Endpoints and envelopes -/

theorem checkStatus_reports {index : Nat} {endpoint : Endpoint}
    (hendpoint : settings.definitions.endpoints[index]? = some endpoint) :
    Reports settings (· = .badStatus index) (checkStatus index endpoint.status) := by
  cases hstatus : endpoint.status with
  | none =>
    refine Reports.nil ?_
    rintro _ rfl
    simp [Defect.Occurs, hendpoint, hstatus]
  | some status =>
    refine Reports.faultIf ?_ (.badStatus hendpoint hstatus)
    simp only [Defect.Occurs, hendpoint, hstatus, Option.some.injEq, exists_and_left,
      exists_eq_left', Bool.or_eq_true, decide_eq_true_eq]
    omega

theorem checkEndpoint_reports {endpoint : Endpoint} {earlier rest : List Endpoint}
    (hendpoints : settings.definitions.endpoints = earlier ++ endpoint :: rest) :
    Reports settings (fun defect => defect.entry? = some (.endpoint, earlier.length))
      (checkEndpoint earlier endpoint) := by
  have hendpoint : settings.definitions.endpoints[earlier.length]? = some endpoint := by
    simp [hendpoints]
  have hids : settings.ids .endpoint = (earlier ++ endpoint :: rest).map Endpoint.id := by
    rw [Settings.ids, hendpoints]
  have hroutes : settings.routes = (earlier ++ endpoint :: rest).map routeOf := by
    rw [Settings.routes, hendpoints]
  have hroute : Reports settings (· = .repeatedRoute earlier.length)
      (repeated routeOf (fun i => .repeatedRoute endpoint.method endpoint.path endpoint.project i
        earlier.length) earlier endpoint) :=
    repeated_reports (hroutes ▸ Iff.rfl) fun index hnearest =>
      .repeatedRoute hendpoint (hroutes ▸ hnearest)
  have hschema : Reports settings (· = .emptySchemaId earlier.length)
      (faultIf (endpoint.schema = "") (.emptySchemaId earlier.length)) :=
    Reports.faultIf (by simp [Defect.Occurs, hendpoint]) (.emptySchemaId earlier.length)
  refine ((((checkId_reports hids).append hroute ?_).append hschema ?_).append
    (checkStatus_reports hendpoint) ?_).congr fun defect _ => ?_
  · rintro _ (rfl | rfl) ⟨⟩
  · rintro _ ((rfl | rfl) | rfl) ⟨⟩
  · rintro _ (((rfl | rfl) | rfl) | rfl) ⟨⟩
  · cases defect <;> simp [Defect.entry?]

theorem checkEnvelope_reports {envelope : Envelope} {earlier rest : List Envelope}
    (henvelopes : settings.definitions.envelopes = earlier ++ envelope :: rest) :
    Reports settings (fun defect => defect.entry? = some (.envelope, earlier.length))
      (checkEnvelope earlier envelope) := by
  refine (checkId_reports (by rw [Settings.ids, henvelopes])).congr fun defect _ => ?_
  cases defect <;> simp [Defect.entry?]

end Validation

/-! ## All settings -/

theorem Defect.index_lt_of_occurs {defect : Defect} {kind : Definable} {index : Nat}
    (hoccurs : defect.Occurs settings) (hentry : defect.entry? = some (kind, index)) :
    index < (settings.ids kind).length := by
  cases defect <;> cases hentry
  case emptyId => exact (List.getElem?_eq_some_iff.mp hoccurs).1
  case repeatedId => exact hoccurs.1
  case repeatedRoute => simpa [Settings.ids, Settings.routes] using hoccurs.1
  case emptyFieldName | repeatedFieldName | emptySchemaId =>
    obtain ⟨entry, hentry, -⟩ := hoccurs
    simpa [Settings.ids] using (List.getElem?_eq_some_iff.mp hentry).1
  case badStatus =>
    obtain ⟨endpoint, status, hendpoint, -⟩ := hoccurs
    simpa [Settings.ids] using (List.getElem?_eq_some_iff.mp hendpoint).1

/-- A list of definitions is reported on when each of its entries is. -/
theorem Reports.entries {α : Type} {check : List α → α → List SettingsFault} {kind : Definable}
    {entries : List α} (hlength : (settings.ids kind).length = entries.length)
    (hcheck : ∀ earlier entry rest, entries = earlier ++ entry :: rest →
      Reports settings (fun defect => defect.entry? = some (kind, earlier.length))
        (check earlier entry)) :
    Reports settings (fun defect => ∃ index, defect.entry? = some (kind, index))
      (Validation.eachAfter check [] entries) := by
  have hplace (i j : Nat) (defect : Defect) (hi : defect.entry? = some (kind, i))
      (hj : defect.entry? = some (kind, j)) : i = j := by
    simpa using hi.symm.trans hj
  refine (Reports.eachAfter hcheck hplace).congr fun defect hoccurs => ?_
  constructor
  · rintro ⟨index, -, hentry⟩
    exact ⟨index, hentry⟩
  · rintro ⟨index, hentry⟩
    exact ⟨index, hlength ▸ Defect.index_lt_of_occurs hoccurs hentry, hentry⟩

namespace Settings

open Validation

/-- The conditions that lie in no list of definitions. -/
theorem general_reports : Reports settings (fun defect => defect.entry? = none)
    (checkServer settings.server ++ checkEngine settings.engine ++
      checkRateLimit settings.rateLimit) := by
  refine ((checkServer_reports.append checkEngine_reports ?_).append
    checkRateLimit_reports ?_).congr fun defect _ => ?_
  · rintro _ (rfl | rfl) <;> simp
  · rintro _ h (rfl | rfl) <;> simp at h
  · cases defect <;> simp [Defect.entry?]

theorem faults_reports : Reports settings (fun _ => True) settings.faults := by
  have hschemas : Reports settings (fun defect => ∃ index, defect.entry? = some (.schema, index))
      (eachAfter checkSchema [] settings.definitions.schemas) :=
    Reports.entries (by simp [ids]) fun _ _ _ => checkSchema_reports
  have hendpoints : Reports settings
      (fun defect => ∃ index, defect.entry? = some (.endpoint, index))
      (eachAfter checkEndpoint [] settings.definitions.endpoints) :=
    Reports.entries (by simp [ids]) fun _ _ _ => checkEndpoint_reports
  have henvelopes : Reports settings
      (fun defect => ∃ index, defect.entry? = some (.envelope, index))
      (eachAfter checkEnvelope [] settings.definitions.envelopes) :=
    Reports.entries (by simp [ids]) fun _ _ _ => checkEnvelope_reports
  refine (((general_reports.append hschemas ?_).append hendpoints ?_).append
    henvelopes ?_).congr fun defect _ => ?_
  · rintro defect h ⟨_, hentry⟩
    simp [h] at hentry
  · rintro defect (h | ⟨_, h⟩) ⟨_, hentry⟩ <;> simp [h] at hentry
  · rintro defect ((h | ⟨_, h⟩) | ⟨_, h⟩) ⟨_, hentry⟩ <;> simp [h] at hentry
  · rcases defect.entry? with _ | ⟨_ | _ | _, index⟩ <;> simp

theorem faults_eq_nil_iff : settings.faults = [] ↔ settings.Valid := by
  rw [faults_reports.eq_nil_iff, valid_iff]
  simp only [true_implies]

/-- Settings are accepted when they violate nothing, and are otherwise refused with one fault for
every condition and place that is violated. -/
theorem faults_report_defects (settings : Settings) :
    (settings.faults = [] ↔ settings.Valid) ∧
      ∃ defects : List Defect, defects.Nodup ∧
        (∀ defect, defect ∈ defects ↔ defect.Occurs settings) ∧
        List.Forall₂ (ReportedAs settings) defects settings.faults := by
  have hreports : Reports settings (fun _ => True) settings.faults := faults_reports
  obtain ⟨defects, hnodup, hmem, hreported⟩ := hreports
  exact ⟨faults_eq_nil_iff, defects, hnodup, fun defect => by rw [hmem, true_and], hreported⟩

end Settings
end MockApi
