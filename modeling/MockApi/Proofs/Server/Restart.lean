import MockApi.Proofs.Resolution.Unversioned
import MockApi.Proofs.Server.Transparency
import MockApi.Server.Reload

/-! Reloads against restarts. New definitions are taken over next to the versions of the old ones,
and the server goes on with its metrics and its limiter; its answers are still those of a server
that is started with the new definitions. -/
namespace MockApi

/-- What happens to a server while it runs. A request without a seed draws from the source beside
it. -/
inductive Event where
  | operation (entropy : Source) (operation : Operation)
  | attempt (files : Files) (commandLine : CommandLine)

namespace Server

def react (event : Event) (server : Server) : Server :=
  match event with
  | .operation entropy operation => (server.perform entropy operation).2
  | .attempt files commandLine => server.attempt (Settings.load files commandLine)

def after (server : Server) (events : List Event) : Server :=
  events.foldl (fun server event => server.react event) server

/-- Each event in turn leaves the store as it is. -/
def Quiet (server : Server) : List Event → Prop
  | [] => True
  | event :: rest => (server.react event).store = server.store ∧ (server.react event).Quiet rest

variable {server one two : Server} {event : Event}

theorem after_append (server : Server) (first second : List Event) :
    server.after (first ++ second) = (server.after first).after second :=
  List.foldl_append

/-! ## Events between two changes -/

theorem settings_react (server : Server) (event : Event) :
    (server.react event).settings = server.settings := by
  cases event with
  | operation entropy operation => exact settings_perform entropy operation server
  | attempt files commandLine =>
    rw [react]
    cases Settings.load files commandLine with
    | ok settings => exact settings_reload settings.definitions server
    | error fault => rfl

theorem settings_after (server : Server) (events : List Event) :
    (server.after events).settings = server.settings := by
  induction events generalizing server with
  | nil => rfl
  | cons event rest ih => exact (ih (server.react event)).trans (settings_react server event)

theorem Coherent.react (h : server.Coherent)
    (hstore : (server.react event).store = server.store) : (server.react event).Coherent := by
  cases event with
  | operation entropy operation =>
    have hperform {operation : Operation} (hnone : operation.change? = none) :
        (server.perform entropy operation).2.Coherent :=
      h.perform entropy (by rw [hnone]; exact trivial)
    cases operation with
    | reload definitions => exact h.reload definitions
    | upsert schema =>
      have hsame : server.react (.operation entropy (.upsert schema)) = server :=
        congrArg (fun store => { server with store }) hstore
      exact hsame.symm ▸ h
    | remove id =>
      have hsame : server.react (.operation entropy (.remove id)) = server :=
        congrArg (fun store => { server with store }) hstore
      exact hsame.symm ▸ h
    | dispatch request => exact hperform rfl
    | invalidate schema => exact hperform rfl
    | clear => exact hperform rfl
  | attempt files commandLine =>
    rw [Server.react]
    cases Settings.load files commandLine with
    | ok settings => exact h.reload settings.definitions
    | error fault => exact h

theorem Coherent.after_quiet {events : List Event} (h : server.Coherent)
    (hquiet : server.Quiet events) : (server.after events).Coherent := by
  induction events generalizing server with
  | nil => exact h
  | cons event rest ih =>
    obtain ⟨hstore, hrest⟩ := hquiet
    exact ih (h.react hstore) hrest

theorem store_after_quiet {events : List Event} (hquiet : server.Quiet events) :
    (server.after events).store = server.store := by
  induction events generalizing server with
  | nil => rfl
  | cons event rest ih =>
    obtain ⟨hstore, hrest⟩ := hquiet
    exact (ih hrest).trans hstore

/-! ## The same definitions under other versions -/

/-- Two servers differ at most in the versions of their schemas and in what does not show in an
answer. -/
structure AlikeButVersions (one two : Server) : Prop where
  content : SameContent one.store.schema? two.store.schema?
  routes : one.store.routes = two.store.routes
  envelopes : one.store.envelopes = two.store.envelopes
  limits : one.settings.limits = two.settings.limits
  placeholder : one.settings.placeholder = two.settings.placeholder

theorem AlikeButVersions.replyFrom (h : one.AlikeButVersions two) {tree other : Tree}
    (hroot : tree.root = other.root) (endpoint : Endpoint) (source : Source) :
    one.replyFrom endpoint tree source = two.replyFrom endpoint other source := by
  have henvelope : envelopeOf one.store endpoint = envelopeOf two.store endpoint := by
    simp only [envelopeOf, Store.envelope?, h.envelopes]
  simp only [Server.replyFrom, henvelope, hroot, h.placeholder]

theorem AlikeButVersions.directAnswer (h : one.AlikeButVersions two) (source : Source)
    (request : MockRequest) :
    one.directAnswer source request = two.directAnswer source request := by
  simp only [Server.directAnswer, Store.endpoint?, h.routes]
  cases two.store.routes.find? ⟨request.project, request.method⟩ request.path with
  | none => rfl
  | some endpoint =>
    have hroot := map_root_resolve h.content one.settings.limits endpoint.schema
    simp only [← h.limits]
    rcases map_eq_map_cases hroot with
      ⟨failure, hone, htwo⟩ | ⟨tree, other, hone, htwo, hroots⟩
    · rw [hone, htwo]
      rfl
    · rw [hone, htwo]
      exact h.replyFrom hroots endpoint source

theorem AlikeButVersions.dispatch (h : one.AlikeButVersions two) (hone : one.Coherent)
    (htwo : two.Coherent) {request : MockRequest} (hseed : request.seed.isSome)
    (entropy entropy' : Source) :
    (one.dispatch entropy request).1 = (two.dispatch entropy' request).1 := by
  rw [(hone.dispatch entropy request).1, (htwo.dispatch entropy' request).1, h.directAnswer,
    sourceOf_of_seeded hseed entropy entropy']

theorem AlikeButVersions.after_quiet (h : one.AlikeButVersions two) {later other : List Event}
    (hlater : one.Quiet later) (hother : two.Quiet other) :
    (one.after later).AlikeButVersions (two.after other) where
  content := by rw [store_after_quiet hlater, store_after_quiet hother]; exact h.content
  routes := by rw [store_after_quiet hlater, store_after_quiet hother]; exact h.routes
  envelopes := by rw [store_after_quiet hlater, store_after_quiet hother]; exact h.envelopes
  limits := by rw [settings_after, settings_after]; exact h.limits
  placeholder := by rw [settings_after, settings_after]; exact h.placeholder

theorem alikeButVersions_reload {definitions : Definitions} {next : Server}
    (hnext : server.reload definitions = some next) (limiter : Option RateLimiter) :
    next.AlikeButVersions (fresh server.settings definitions limiter) := by
  obtain ⟨store, hstore, rfl⟩ := reload_eq_some_iff.mp hnext
  obtain ⟨intake, -, rfl⟩ := Store.replaceAll_eq_some_iff.mp hstore
  exact ⟨Store.sameContent_replaceAll hstore (Store.replaceAll_empty definitions), rfl, rfl, rfl,
    rfl⟩

/-! ## Reloads and restarts -/

/-- The settings of a start hold for a start with other definitions, the rate limit included. -/
theorem start_with_definitions {settings : Settings} (hstart : start settings = .ok server)
    (definitions : Definitions) : start { settings with definitions } =
      .ok (fresh server.settings definitions server.limiter) := by
  rw [start_eq] at hstart ⊢
  change (limiterOf settings.rateLimit).map _ = _
  cases hlimiter : limiterOf settings.rateLimit with
  | error fault =>
    rw [hlimiter] at hstart
    cases hstart
  | ok limiter =>
    rw [hlimiter] at hstart
    cases hstart
    rfl

variable {files : Files} {commandLine : CommandLine}

theorem after_accepted {accepted : Settings}
    (hload : Settings.load files commandLine = .ok accepted) (before later : List Event)
    (server : Server) :
    server.after (before ++ .attempt files commandLine :: later) =
      (((server.after before).reload accepted.definitions).getD (server.after before)).after
        later := by
  rw [after_append]
  change ((server.after before).attempt (Settings.load files commandLine)).after later = _
  rw [hload, attempt_ok]

theorem after_rejected {fault : LoadFault} (hload : Settings.load files commandLine = .error fault)
    (before later : List Event) (server : Server) :
    server.after (before ++ .attempt files commandLine :: later) =
      server.after (before ++ later) := by
  rw [after_append, after_append]
  change ((server.after before).attempt (Settings.load files commandLine)).after later = _
  rw [hload, attempt_error]

/-- After its files were read again, a server answers as one that is started anew with the settings
of the first start and the definitions of the files, as long as nothing changes the store; the new
definitions must not run out of versions. If the files are not accepted, it goes on as if they had
not been read. -/
theorem reload_answers_as_restart (settings : Settings) {server : Server}
    (hstart : start settings = .ok server) (before : List Event) (files : Files)
    (commandLine : CommandLine) :
    let attempt := Event.attempt files commandLine
    (∀ accepted, Settings.load files commandLine = .ok accepted →
      (server.after before).store.ChangeFits (.replaceAll accepted.definitions) →
      ∃ restarted, start { settings with definitions := accepted.definitions } = .ok restarted ∧
        ∀ later other, (server.after (before ++ [attempt])).Quiet later → restarted.Quiet other →
          ∀ request, request.seed.isSome → ∀ entropy entropy',
            ((server.after (before ++ attempt :: later)).dispatch entropy request).1 =
              ((restarted.after other).dispatch entropy' request).1) ∧
    ∀ fault, Settings.load files commandLine = .error fault → ∀ later request entropy,
      ((server.after (before ++ attempt :: later)).dispatch entropy request).1 =
        ((server.after (before ++ later)).dispatch entropy request).1 := by
  intro attempt
  refine ⟨fun accepted hload hfits => ?_, fun fault hload later request entropy => ?_⟩
  · let restarted := fresh server.settings accepted.definitions server.limiter
    refine ⟨restarted, start_with_definitions hstart _, fun later other hlater hother => ?_⟩
    intro request hseed entropy entropy'
    obtain ⟨store, hstore⟩ := Option.isSome_iff_exists.mp hfits
    obtain ⟨next, hnext⟩ : ∃ next, (server.after before).reload accepted.definitions = some next :=
      ⟨_, reload_eq_some_iff.mpr ⟨store, hstore, rfl⟩⟩
    have hreload (later : List Event) :
        server.after (before ++ attempt :: later) = next.after later := by
      rw [after_accepted hload, hnext, Option.getD_some]
    have halike : next.AlikeButVersions restarted := by
      have h := alikeButVersions_reload hnext server.limiter
      rwa [settings_after] at h
    have hcoherent : next.Coherent := coherent_of_reload hnext
    rw [hreload] at hlater
    rw [hreload]
    exact (halike.after_quiet hlater hother).dispatch (hcoherent.after_quiet hlater)
      ((coherent_fresh _ _ _).after_quiet hother) hseed entropy entropy'
  · rw [after_rejected hload]

/-- A field that was served from the cache is taken away in the files; and files that are broken are
read in vain. -/
theorem answer_without_former_field :
    let active : Field := ⟨"active", .leaf ⟨"boolean", Params.empty⟩⟩
    let endpoint : Endpoint := ⟨"users", "default", .get, "/users", "user", none, none⟩
    let settings : Settings := ⟨ServerSettings.standard, EngineSettings.standard, none,
      ⟨[Schema.ofFields "user" [active]], [endpoint], []⟩⟩
    let files := Findings.view ⟨[], [("./config/schemas", [("user.yaml", some "id: user\n")]),
      ("./config/endpoints", [("users.yaml",
        some "id: users\nmethod: GET\npath: /users\nschema_id: user\n")])]⟩
    let broken := Findings.view ⟨[], [("./config/schemas", [("user.yaml", some "")])]⟩
    let commandLine : CommandLine := ⟨"mockshape", none, none, none, false, false⟩
    let get : MockRequest := ⟨"default", .get, "/users", some 7⟩
    let entropy := Source.ofSeed 0
    let asked := Event.operation entropy (.dispatch get)
    ∃ server restarted accepted, start settings = .ok server ∧
      Settings.load files commandLine = .ok accepted ∧
      (server.after [asked]).store.ChangeFits (.replaceAll accepted.definitions) ∧
      start { settings with definitions := accepted.definitions } = .ok restarted ∧
      (restarted.dispatch entropy get).1.outcome? = some "ok" ∧
      ((server.after [asked, .attempt files commandLine, asked]).dispatch entropy get).1 =
        (restarted.dispatch entropy get).1 ∧
      ((server.after [asked, .attempt broken commandLine, asked]).dispatch entropy get).1 =
        ((server.after [asked, asked]).dispatch entropy get).1 := by
  intro active endpoint settings files broken commandLine get entropy asked
  let server := fresh settings.engine settings.definitions none
  have hstart : start settings = .ok server := rfl
  have hseed : get.seed.isSome := rfl
  have hread : (Settings.load files commandLine).isOk = true := by decide +kernel
  have hbroken : (Settings.load broken commandLine).isOk = false := by decide +kernel
  have hserved : ((Settings.load files commandLine).toOption.bind fun accepted =>
      (start { settings with definitions := accepted.definitions }).toOption.map fun restarted =>
        (restarted.dispatch entropy get).1.outcome?) = some (some "ok") := by
    decide +kernel
  have hroom : ((Settings.load files commandLine).toOption.bind fun accepted =>
      server.store.replaceAll accepted.definitions).isSome = true := by decide +kernel
  cases hload : Settings.load files commandLine with
  | error fault =>
    rw [hload] at hread
    cases hread
  | ok accepted =>
    cases hfault : Settings.load broken commandLine with
    | ok other =>
      rw [hfault] at hbroken
      cases hbroken
    | error fault =>
      have hquiet (server : Server) : server.Quiet [asked] :=
        ⟨store_dispatch entropy get server, trivial⟩
      simp only [hload, Except.toOption, Option.bind_some] at hroom
      have hfits : (server.after [asked]).store.ChangeFits (.replaceAll accepted.definitions) := by
        rw [store_after_quiet (hquiet server)]
        exact hroom
      obtain ⟨restarted, hrestart, hanswer⟩ :=
        (reload_answers_as_restart settings hstart [asked] files commandLine).1 accepted hload hfits
      have hvain :=
        (reload_answers_as_restart settings hstart [asked] broken commandLine).2 fault hfault
      rw [hload] at hserved
      have houtcome : (restarted.dispatch entropy get).1.outcome? = some "ok" := by
        simpa [Except.toOption, hrestart] using hserved
      refine ⟨server, restarted, accepted, hstart, rfl, hfits, hrestart, houtcome, ?_, ?_⟩
      · exact hanswer [asked] [] (hquiet _) trivial get hseed entropy entropy
      · exact hvain [asked] get entropy

end Server
end MockApi
