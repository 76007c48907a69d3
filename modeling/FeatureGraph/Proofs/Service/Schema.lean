import FeatureGraph.Proofs.Response.PartialFailure
import FeatureGraph.Proofs.Schema.SingleFlight

/-! # Fetching a schema again

A schema that cannot be fetched leaves nothing behind but its failure, so the next use asks again. The first
schema that arrives is kept, and nothing is asked for afterwards. -/
namespace FeatureGraph

/-! ## Failures -/

def Fault.IsSchemaFetch (e : Fault) : Prop := ∃ f, e = .failure f ∧ f.kind = .schemaFetch

namespace Schema

variable {answer : Except Fault DataModel}

theorem load_eq_ok {schema : Schema} : load answer = .ok schema ↔ ∃ m, answer = .ok m ∧ schema = ofModel m := by
  unfold load
  split
  · next m => simp [eq_comm]
  · split <;> simp
  · simp

/-- Whatever fails in a fetch fails as the fetch of a schema; a defect stays what it is. -/
theorem load_failsWith : FailsWith (fun e => e.IsSchemaFetch ∨ ∃ d, answer = .error (.defect d) ∧ e = .defect d)
    (load answer) := by
  cases answer with
  | ok m => exact .ok _
  | error e =>
    cases e with
    | defect d => exact .error (.inr ⟨d, rfl, rfl⟩)
    | failure f =>
      rw [load]
      split
      · next hkind => exact .error (.inl ⟨f, rfl, hkind⟩)
      · exact .error (.inl ⟨_, rfl, rfl⟩)

end Schema

/-! ## Replies that break a fetch -/

/-- What a reply breaks a fetch with: the address cannot be sent, or the error in a JSON body cannot be shown, as it
is nested too deep or is no JSON and no text in its character set either. -/
inductive Reply.Breaks (platform : Platform) : Reply → Defect → Prop
  | address (d : Defect) : Breaks platform (.broken d) d
  | depth {a : Answer} {d : Defect} (hjson : a.isJson) (hread : a.json platform = .error d) :
    Breaks platform (.answered a) d
  | characters {a : Answer} {d : Defect} (hjson : a.isJson) (hread : a.json platform = .ok none)
    (htext : platform.codec a.charset a.body = .error d) : Breaks platform (.answered a) d

/-- What a use of the schema fails with after a reply. -/
inductive Reply.FailsFetch (platform : Platform) (reply : Reply) : Fault → Prop
  | typed {e : Fault} (h : e.IsSchemaFetch) : FailsFetch platform reply e
  | broken {d : Defect} (h : reply.Breaks platform d) : FailsFetch platform reply (.defect d)

theorem Answer.errorPayload_eq_error_iff {a : Answer} {platform : Platform} {d : Defect} :
    a.errorPayload platform = .error d ↔
      a.json platform = .error d ∨ a.json platform = .ok none ∧ platform.codec a.charset a.body = .error d := by
  unfold errorPayload
  cases a.json platform with
  | error d' => exact ⟨fun h => .inl (by cases h; rfl), fun h => by rcases h with ⟨⟨⟩⟩ | ⟨⟨⟩, -⟩; rfl⟩
  | ok v =>
    cases v with
    | none =>
      cases platform.codec a.charset a.body with
      | error d' => exact ⟨fun h => .inr ⟨rfl, by cases h; rfl⟩, fun h => by rcases h with ⟨⟨⟩⟩ | ⟨-, ⟨⟩⟩; rfl⟩
      | ok t => exact ⟨nofun, fun h => by rcases h with ⟨⟨⟩⟩ | ⟨-, ⟨⟩⟩⟩
    | some v =>
      refine ⟨fun h => ?_, fun h => by rcases h with ⟨⟨⟩⟩ | ⟨⟨⟩, -⟩⟩
      cases v with
      | object ms =>
        simp only [bind, Except.bind] at h
        split at h <;> cases h
      | _ => cases h

namespace Request

variable {r : Request} {reply : Reply} {platform : Platform} {d : Defect}

/-- The model that a reply holds. -/
def model (r : Request) (reply : Reply) (platform : Platform := {}) : Except Fault DataModel := do
  (← r.answer reply).model platform

theorem model_of_answered {a : Answer} (h : ¬(400 ≤ a.status ∧ !a.isJson)) :
    r.model (.answered a) platform = a.model platform := by
  rw [model, answer, if_neg h]
  rfl

theorem model_eq_defect_iff : r.model reply platform = .error (.defect d) ↔ reply.Breaks platform d := by
  cases reply with
  | failed error => exact ⟨nofun, nofun⟩
  | broken d' => exact ⟨fun h => by cases h; exact .address d, fun h => by cases h; rfl⟩
  | answered a =>
    by_cases hjson : a.isJson
    · -- a body that is JSON is read whatever the status says
      have hpayload : a.model platform = .error (.defect d) ↔ a.errorPayload platform = .error d := by
        rw [Answer.model, if_pos hjson]
        cases a.errorPayload platform with
        | error d' => exact ⟨fun h => by cases h; rfl, fun h => by cases h; rfl⟩
        | ok payload => exact ⟨nofun, nofun⟩
      rw [model_of_answered (by simp [hjson]), hpayload, Answer.errorPayload_eq_error_iff]
      constructor
      · rintro (hread | ⟨hread, htext⟩)
        · exact .depth hjson hread
        · exact .characters hjson hread htext
      · rintro (_ | ⟨-, hread⟩ | ⟨-, hread, htext⟩)
        · exact .inl hread
        · exact .inr ⟨hread, htext⟩
    · refine ⟨fun h => ?_, fun h => by rcases h with _ | ⟨hjson', -⟩ | ⟨hjson', -, -⟩ <;> exact absurd hjson' hjson⟩
      by_cases hstatus : 400 ≤ a.status ∧ !a.isJson
      · rw [model, answer, if_pos hstatus] at h
        cases h
      · rw [model_of_answered hstatus, Answer.model, if_neg hjson] at h
        cases hdecode : DataModel.decode a.body <;> rw [hdecode] at h <;> cases h

end Request

/-! ## Lists within each other -/

/-- Each bracket takes a call. -/
theorem Json.value_brackets {digits : Option Nat} {k n fuel : Nat} (hk : k < n) (hfuel : 2 * k < fuel) (cs : List Char) :
    Json.value ⟨digits, some k⟩ fuel (List.replicate n '[' ++ cs) = .error (.tooDeep "array") := by
  induction k generalizing n fuel with
  | zero =>
    obtain ⟨n, rfl⟩ := Nat.exists_eq_add_one.2 hk
    obtain ⟨fuel, rfl⟩ := Nat.exists_eq_add_one.2 hfuel
    rfl
  | succ k ih =>
    obtain ⟨n, rfl⟩ : ∃ m, n = m + 2 := ⟨n - 2, by omega⟩
    obtain ⟨fuel, rfl⟩ : ∃ m, fuel = m + 2 := ⟨fuel - 2, by omega⟩
    have hrest : Json.value ⟨digits, some k⟩ fuel (List.replicate (n + 1) '[' ++ cs) = .error (.tooDeep "array") :=
      ih (by omega) (by omega)
    rw [List.replicate_succ, List.cons_append] at hrest ⊢
    have hopen : Json.value ⟨digits, some (k + 1)⟩ (fuel + 2) ('[' :: (List.replicate (n + 1) '[' ++ cs)) =
        Json.items ⟨digits, some k⟩ (fuel + 1) [] ('[' :: (List.replicate n '[' ++ cs)) := rfl
    rw [hopen, Json.items, hrest]
    rfl

theorem Json.loads_brackets {n calls : Nat} (h : calls < n) : Json.loads (String.ofList (List.replicate n '[')) calls =
    .error (.tooDeep " while decoding a JSON array from a unicode string") := by
  have hspace : Json.skipSpace (List.replicate n '[') = List.replicate n '[' := by cases n <;> rfl
  have hvalue : Json.value ⟨some Number.digitLimit, some calls⟩ (2 * n + 2) (List.replicate n '[' ++ []) =
      .error (.tooDeep "array") := Json.value_brackets h (by omega) []
  rw [List.append_nil] at hvalue
  have hread : Json.read ⟨some Number.digitLimit, some calls⟩ (String.ofList (List.replicate n '[')) =
      .error (.tooDeep "array") := by
    simp only [Json.read, String.toList_ofList, List.length_replicate, hspace, hvalue]
    rfl
  rw [Json.loads, hread]
  rfl

theorem Text.Encoding.textOf?_brackets {n : Nat} (h : 4 ≤ n) :
    Text.Encoding.textOf? (List.replicate n 0x5B) = some (String.ofList (List.replicate n '[')) := by
  have hencode : Text.Utf8.encode (String.ofList (List.replicate n '[')) = List.replicate n 0x5B := by
    rw [Text.Utf8.encode, String.toList_ofList, List.flatMap_replicate, show Text.Utf8.encodeChar '[' = [0x5B] from rfl,
      List.flatten_replicate_singleton]
  have hdetect : Text.Encoding.detect (List.replicate n 0x5B) = (.utf8, 0) := by
    obtain ⟨m, rfl⟩ := Nat.exists_eq_add_of_le' h
    rfl
  rw [Text.Encoding.textOf?, hdetect, ← hencode]
  exact Text.Utf8.decode_encode _

/-- An error page of more brackets than there is room for calls. -/
theorem Reply.breaks_brackets {platform : Platform} {n status : Nat} (h : platform.calls < n) (hn : 4 ≤ n) :
    (Reply.answered { status, contentType := some "application/json", body := List.replicate n 0x5B }).Breaks platform
      (.tooDeep " while decoding a JSON array from a unicode string") := by
  refine .depth (show "application/json".toList.isPrefixOf "application/json".toList = true by decide) ?_
  rw [Answer.json, Text.Encoding.textOf?_brackets hn]
  exact Json.loads_brackets h

/-! ## Models without types -/

open Wire in
theorem DataModel.decode_globalId {name : String} (hname : name ≠ "") (hframe : Framable (textField 5 name)) :
    DataModel.decode (frame (textField 5 name)) = .ok (ModelMessage.model { globalIdProperty := name }) := by
  have hread : ModelMessage.read? (textField 5 name) = some { globalIdProperty := name } := by
    rw [ModelMessage.read?]
    refine (Reads.text (Nat.lt_trans hframe (by decide)) ?_ fun h => absurd h hname).fold_eq
    simp only [text?_encode, Option.map_some]
  have hnext := readFrame_frame hframe [] []
  rw [List.append_nil, List.nil_append, List.length_nil] at hnext
  have hempty : ¬name.isEmpty = true := by simpa using hname
  rw [DataModel.decode, hnext]
  simp only [bind, Except.bind, hread]
  exact if_neg hempty

/-! ## One fetch -/

namespace Server

variable {s : Server} {remote : Remote} {referer : Option String} {caller : String} {w : World}

def modelRequest (s : Server) (referer : Option String) (caller : String) : Request :=
  { method := .get, url := s.modelUrl caller, contentType := "application/x-www-form-urlencoded", referer }

theorem run_fetch {url : String} (hreferer : s.refererHeader = .ok referer) :
    let r : Request := { method := .get, url, contentType := "application/x-www-form-urlencoded", referer }
    (s.fetch remote url).run.run w =
      (r.answer (remote w.sent r), { w with sent := w.sent ++ [r] }) := by
  intro r
  have hget : (Session.ofDefect (s.getRequest url)).run.run w = (.ok r, w) := by
    rw [getRequest, hreferer]
    rfl
  rw [fetch, Session.run_bind_of_ok hget]
  cases hanswer : r.answer (remote w.sent r) with
  | ok a => exact Session.run_bind_of_ok (by rw [Session.run_send, hanswer]; rfl) _
  | error e =>
    cases e with
    | failure f => exact Session.run_bind_of_ok (by rw [Session.run_send, hanswer]; rfl) _
    | defect d => exact Session.run_bind_of_error (by rw [Session.run_send, hanswer]; rfl) _

theorem run_fetchModel (hreferer : s.refererHeader = .ok referer) :
    let r := s.modelRequest referer caller
    (s.fetchModel remote caller).run.run w =
      (r.model (remote w.sent r) s.platform,
        { w with metrics := w.metrics ++ [.counter "schema_fetches" 1], sent := w.sent ++ [r] }) := by
  intro r
  let counted : World := { w with metrics := w.metrics ++ [.counter "schema_fetches" 1] }
  have hcount : (Session.count "schema_fetches" 1).run.run w = (.ok (), counted) := rfl
  have hfetch : (s.fetch remote (s.modelUrl caller)).run.run counted =
      (r.answer (remote w.sent r), { counted with sent := w.sent ++ [r] }) := run_fetch hreferer
  rw [fetchModel, Session.run_bind_of_ok hcount, Request.model]
  cases hanswer : r.answer (remote w.sent r) with
  | error e =>
    rw [hanswer] at hfetch
    rw [Session.run_bind_of_error hfetch]
    rfl
  | ok a =>
    rw [hanswer] at hfetch
    rw [Session.run_bind_of_ok hfetch]
    rfl

theorem run_schema_of_stored {schema : Schema} (h : w.schemas.lookup s.name = some schema) :
    (s.schema remote caller).run.run w = (.ok schema, w) := by
  rw [Server.schema, Session.run_bind_of_ok (Session.run_get w), h]
  rfl

theorem run_schema_of_none (h : w.schemas.lookup s.name = none) (hreferer : s.refererHeader = .ok referer) :
    let r := s.modelRequest referer caller
    let asked : World := { w with metrics := w.metrics ++ [.counter "schema_fetches" 1], sent := w.sent ++ [r] }
    (s.schema remote caller).run.run w =
      match Schema.load (r.model (remote w.sent r) s.platform) with
      | .ok schema => (.ok schema, { asked with schemas := Assoc.put s.name schema w.schemas })
      | .error e => (.error e, asked) := by
  intro r asked
  have hfetch : (ExceptT.lift (s.fetchModel remote caller).run : Session _).run.run w =
      (.ok (r.model (remote w.sent r) s.platform), asked) := by
    rw [Session.run_lift, run_fetchModel hreferer]
  rw [Server.schema, Session.run_bind_of_ok (Session.run_get w), h]
  dsimp only
  rw [Session.run_bind_of_ok hfetch]
  cases Schema.load (r.model (remote w.sent r) s.platform) with
  | ok schema => rfl
  | error e => rfl

end Server

/-! ## A cache that nobody else uses -/

namespace SchemaCache

variable {c : SchemaCache} {name : String}

/-- A caller who is alone: the fetch that the call starts, if there is one, is answered before anyone else
comes. -/
def get (c : SchemaCache) (name : String) (answer : Except Fault DataModel) : SchemaCache :=
  c.run [.call name, .finish answer, .resume name]

/-- No fetch runs, and none that has failed is left for the next caller. -/
structure Quiet (c : SchemaCache) : Prop where
  shared : c.shared = none
  running : ∀ fetch, ¬c.IsRunning fetch

/-- How a caller ends who gets a result. -/
def endOf : Except Fault Schema → Caller
  | .ok s => .returned s
  | .error e => .raised e

theorem get_of_snapshot (hc : c.Quiet) (hname : c.callers.lookup name = none) {schema : Schema}
    (h : c.snapshot = some schema) (answer : Except Fault DataModel) :
    c.get name answer = c.setCaller name (.returned schema) := by
  have hcall : c.call name = c.setCaller name (.returned schema) := by simp [call, hname, h]
  have hfinish : (c.setCaller name (.returned schema)).finish answer = c.setCaller name (.returned schema) := by
    rcases finish_cases (c.setCaller name (.returned schema)) answer with ⟨-, heq⟩ | ⟨fetch, -, hrunning, -⟩
    · exact heq
    · exact absurd hrunning (hc.running fetch)
  simp only [get, run, List.foldl_cons, List.foldl_nil, step, hcall, hfinish]
  simp [resume]

theorem outcome_eq_endOf {fetch : Nat} {result : Except Fault Schema} (h : c.result? fetch = some result) :
    c.outcome fetch = endOf result := by
  unfold outcome
  rw [h]
  cases result <;> rfl

theorem get_of_empty (hc : c.Quiet) (hname : c.callers.lookup name = none) (h : c.snapshot = none)
    (answer : Except Fault DataModel) :
    (c.get name answer).Quiet ∧ (c.get name answer).snapshot = (Schema.load answer).toOption ∧
      (c.get name answer).fetches = c.fetches ++ [some (Schema.load answer)] ∧
      (c.get name answer).callers.lookup name = some (endOf (Schema.load answer)) := by
  let fetch := c.fetches.length
  let called := c.start.await name fetch
  have hcall : c.call name = called := by simp [call, hname, h, hc.shared, called, fetch]
  have hfetches : called.fetches = c.fetches ++ [none] := fetches_await
  have hshared : called.shared = some fetch := by simp [called, shared_leave, start, result?, fetch]
  have hrunning : ∀ other, called.IsRunning other ↔ other = fetch := by
    intro other
    have hold := hc.running other
    simp only [IsRunning, hfetches] at hold ⊢
    grind
  rcases finish_cases called answer with ⟨hnone, -⟩ | ⟨other, snapshot, hother, hsnapshot, hfinish⟩
  · exact absurd ((hrunning fetch).2 rfl) (hnone fetch)
  obtain rfl := (hrunning other).1 hother
  let finished := called.finish answer
  have hdone : finished.fetches = c.fetches ++ [some (Schema.load answer)] := by
    simp [finished, hfinish, hfetches, fetch]
  have hkept : finished.shared = some fetch := by
    rw [show finished = _ from hfinish]
    exact hshared
  have hresult : finished.result? fetch = some (Schema.load answer) := by simp [result?, hdone, fetch]
  have hwaiting : finished.callers.lookup name = some (.waiting fetch) := by
    simp [finished, hfinish, called, outcome, start, result?, fetch]
  have hget : c.get name answer = finished.await name fetch := by
    simp only [get, run, List.foldl_cons, List.foldl_nil, step, hcall]
    change finished.resume name = finished.await name fetch
    rw [resume, hwaiting]
  rw [hget]
  refine ⟨⟨?_, ?_⟩, ?_, ?_, ?_⟩
  · simp [shared_leave, hresult, hkept]
  · intro other hother
    have hold := hc.running other
    simp only [IsRunning, fetches_await, hdone] at hold hother
    grind
  · simp [finished, hfinish, hsnapshot, called, start, h]
  · rw [fetches_await, hdone]
  · simp [outcome_eq_endOf hresult]

end SchemaCache

/-! ## Many uses -/

namespace Server

variable {s : Server} {remote : Remote} {referer : Option String}

def schemas (s : Server) (remote : Remote) : List String → StateM World (List (Except Fault Schema))
  | [] => return []
  | caller :: callers => do
    let x ← (s.schema remote caller).run
    return x :: (← s.schemas remote callers)

theorem run_schemas_nil (w : World) : (s.schemas remote []).run w = ([], w) := rfl

theorem run_schemas_cons {caller : String} {x : Except Fault Schema} {w w' : World}
    (h : (s.schema remote caller).run.run w = (x, w')) (callers : List String) :
    (s.schemas remote (caller :: callers)).run w =
      (x :: ((s.schemas remote callers).run w').1, ((s.schemas remote callers).run w').2) := by
  rw [schemas, StateT.run_bind, h]
  rfl

theorem run_schemas_of_stored {schema : Schema} {w : World} (h : w.schemas.lookup s.name = some schema)
    (callers : List String) :
    (s.schemas remote callers).run w = (List.replicate callers.length (.ok schema), w) := by
  induction callers with
  | nil => rfl
  | cons caller callers ih =>
    rw [run_schemas_cons (run_schema_of_stored h), ih]
    rfl

/-- One use of a server that has no schema yet. -/
theorem schema_cases (hreferer : s.refererHeader = .ok referer) (remote : Remote) (caller : String) {w : World}
    (h : w.schemas.lookup s.name = none) :
    let r := s.modelRequest referer caller
    let reply := remote w.sent r
    ∃ w', w'.sent = w.sent ++ [r] ∧
      ((∃ m, r.model reply s.platform = .ok m ∧ (s.schema remote caller).run.run w = (.ok (Schema.ofModel m), w') ∧
          w'.schemas = Assoc.put s.name (Schema.ofModel m) w.schemas) ∨
        ∃ cause e, r.model reply s.platform = .error cause ∧ (s.schema remote caller).run.run w = (.error e, w') ∧
          reply.FailsFetch s.platform e ∧ w'.schemas = w.schemas) := by
  intro r reply
  rw [run_schema_of_none h hreferer]
  cases hload : Schema.load (r.model reply s.platform) with
  | ok schema =>
    obtain ⟨m, hm, rfl⟩ := Schema.load_eq_ok.1 hload
    exact ⟨_, rfl, .inl ⟨m, hm, rfl, rfl⟩⟩
  | error e =>
    have hfails : reply.FailsFetch s.platform e := by
      rcases Schema.load_failsWith e hload with htyped | ⟨d, hmodel, rfl⟩
      · exact .typed htyped
      · exact .broken (Request.model_eq_defect_iff.1 hmodel)
    cases hmodel : r.model reply s.platform with
    | ok m =>
      rw [hmodel] at hload
      cases hload
    | error cause => exact ⟨_, rfl, .inr ⟨cause, e, rfl, rfl, hfails, rfl⟩⟩

/-- Only what a reply breaks a fetch with is outside the failures. -/
theorem schema_eq_defect_iff (hreferer : s.refererHeader = .ok referer) (remote : Remote) (caller : String) {w : World}
    (h : w.schemas.lookup s.name = none) (d : Defect) :
    ((s.schema remote caller).run.run w).1 = .error (.defect d) ↔
      (remote w.sent (s.modelRequest referer caller)).Breaks s.platform d := by
  rw [run_schema_of_none h hreferer, ← Request.model_eq_defect_iff]
  cases (s.modelRequest referer caller).model (remote w.sent (s.modelRequest referer caller)) s.platform with
  | ok m => exact ⟨nofun, nofun⟩
  | error e =>
    cases e with
    | defect d' => exact ⟨fun h => by cases h; rfl, fun h => by cases h; rfl⟩
    | failure f =>
      have htyped : ∀ e, Schema.load (.error (.failure f)) = .error e → e.IsSchemaFetch := by
        intro e he
        rcases Schema.load_failsWith e he with htyped | ⟨-, ⟨⟩, -⟩
        exact htyped
      cases hload : Schema.load (.error (.failure f)) with
      | ok schema => exact ⟨nofun, nofun⟩
      | error e =>
        obtain ⟨f', rfl, -⟩ := htyped e hload
        exact ⟨nofun, nofun⟩

/-- Uses one after the other: those before the first schema fail, those after it ask for nothing. -/
theorem schemas_cases (hreferer : s.refererHeader = .ok referer) (remote : Remote) (callers : List String) {w : World}
    (h : w.schemas.lookup s.name = none) :
    ∃ (es : List Fault) (w' : World) (more : List Request),
      (∀ e ∈ es, ∃ sent, ∃ r ∈ more, (remote sent r).FailsFetch s.platform e) ∧ w'.sent = w.sent ++ more ∧
      (∀ r ∈ more, ∃ caller ∈ callers, r = s.modelRequest referer caller) ∧
      ((s.schemas remote callers).run w = (es.map .error, w') ∧ w'.schemas = w.schemas ∧ more.length = es.length ∨
        ∃ m n, (s.schemas remote callers).run w =
            (es.map .error ++ List.replicate (n + 1) (.ok (Schema.ofModel m)), w') ∧
          w'.schemas = Assoc.put s.name (Schema.ofModel m) w.schemas ∧ more.length = es.length + 1) := by
  induction callers generalizing w with
  | nil => exact ⟨[], w, [], nofun, by simp, nofun, .inl ⟨rfl, rfl, rfl⟩⟩
  | cons caller callers ih =>
    obtain ⟨w1, hsent, hcases⟩ := schema_cases hreferer remote caller h
    rcases hcases with ⟨m, -, hrun, hstored⟩ | ⟨-, e, -, hrun, hfails, hstored⟩
    · -- the first schema stays
      have hlookup : w1.schemas.lookup s.name = some (Schema.ofModel m) := by rw [hstored, Assoc.lookup_put, if_pos rfl]
      rw [run_schemas_cons hrun, run_schemas_of_stored hlookup]
      exact ⟨[], w1, [_], nofun, hsent, by simp, .inr ⟨m, callers.length, rfl, hstored, rfl⟩⟩
    · -- after a failure the rest begins anew
      obtain ⟨es, w', more, hes, hsent', hmore, hrest⟩ := ih (w := w1) (by rw [hstored, h])
      rw [run_schemas_cons hrun]
      refine ⟨e :: es, w', s.modelRequest referer caller :: more, ?_, ?_, ?_, ?_⟩
      · refine List.forall_mem_cons.2 ⟨⟨w.sent, _, List.mem_cons_self, hfails⟩, fun e' he' => ?_⟩
        obtain ⟨sent, r, hr, hfails'⟩ := hes e' he'
        exact ⟨sent, r, List.mem_cons_of_mem _ hr, hfails'⟩
      · rw [hsent', hsent, List.append_assoc, List.singleton_append]
      · refine List.forall_mem_cons.2 ⟨⟨caller, List.mem_cons_self, rfl⟩, fun r hr => ?_⟩
        obtain ⟨other, hother, rfl⟩ := hmore r hr
        exact ⟨other, List.mem_cons_of_mem caller hother, rfl⟩
      · rcases hrest with ⟨hrun', hstored', hlength⟩ | ⟨m, n, hrun', hstored', hlength⟩
        · exact .inl ⟨by rw [hrun']; rfl, hstored'.trans hstored, by simp [hlength]⟩
        · exact .inr ⟨m, n, by rw [hrun']; rfl, by rw [hstored', hstored], by simp [hlength]⟩

/-- What a server keeps is what a cache keeps whose callers come one by one, and it asks when the cache fetches. -/
theorem cache_get (hreferer : s.refererHeader = .ok referer) (remote : Remote) (caller : String) {w : World}
    {c : SchemaCache} {name : String} (hc : c.Quiet) (hname : c.callers.lookup name = none)
    (hsnapshot : c.snapshot = w.schemas.lookup s.name) :
    let p := (s.schema remote caller).run.run w
    let c' := c.get name ((s.fetchModel remote caller).run.run w).1
    c'.Quiet ∧ c'.snapshot = p.2.schemas.lookup s.name ∧ c'.callers.lookup name = some (SchemaCache.endOf p.1) ∧
      c'.fetches.length + w.sent.length = c.fetches.length + p.2.sent.length := by
  intro p c'
  cases hstored : w.schemas.lookup s.name with
  | some schema =>
    have hp : p = (.ok schema, w) := run_schema_of_stored hstored
    have hc' : c' = c.setCaller name (.returned schema) :=
      SchemaCache.get_of_snapshot hc hname (hsnapshot.trans hstored) _
    rw [hc', hp]
    exact ⟨⟨hc.shared, hc.running⟩, hsnapshot, by simp [SchemaCache.endOf], rfl⟩
  | none =>
    let answer := (s.modelRequest referer caller).model (remote w.sent (s.modelRequest referer caller)) s.platform
    have hc' : c' = c.get name answer := by simp only [c', run_fetchModel hreferer, answer]
    have hp : p.2.schemas.lookup s.name = (Schema.load answer).toOption ∧ p.1 = Schema.load answer ∧
        p.2.sent.length = w.sent.length + 1 := by
      simp only [p, run_schema_of_none hstored hreferer, answer]
      cases Schema.load _ with
      | ok schema => simp [Except.toOption]
      | error e => simp [Except.toOption, hstored]
    obtain ⟨hlookup, hresult, hsent⟩ := hp
    obtain ⟨hquiet, hkept, hfetches, hend⟩ := SchemaCache.get_of_empty hc hname (hsnapshot.trans hstored) answer
    rw [hc', hlookup, hresult, hsent, hfetches, List.length_append, List.length_singleton]
    exact ⟨hquiet, hkept, hend, by omega⟩

/-- A fetch of the schema gives the schema of the model in the reply, which is kept, or fails and leaves nothing
behind: as a fetch of a schema, unless the reply breaks it. So from a server without a schema one use after the other
sends as many requests as fail, and one more once a schema has arrived. A cache whose callers come one by one does the
same. -/
theorem schema_failure_leaves_no_trace (hreferer : s.refererHeader = .ok referer) (remote : Remote) :
    (∀ (caller : String) (w : World), w.schemas.lookup s.name = none →
      let r := s.modelRequest referer caller
      let reply := remote w.sent r
      (∃ w', w'.sent = w.sent ++ [r] ∧
        ((∃ m, r.model reply s.platform = .ok m ∧
            (s.schema remote caller).run.run w = (.ok (Schema.ofModel m), w') ∧
            w'.schemas = Assoc.put s.name (Schema.ofModel m) w.schemas) ∨
          ∃ cause e, r.model reply s.platform = .error cause ∧
            (s.schema remote caller).run.run w = (.error e, w') ∧ reply.FailsFetch s.platform e ∧
            w'.schemas = w.schemas)) ∧
      ∀ d, ((s.schema remote caller).run.run w).1 = .error (.defect d) ↔ reply.Breaks s.platform d) ∧
    (∀ (callers : List String) (w : World), w.schemas.lookup s.name = none →
      ∃ (es : List Fault) (w' : World) (more : List Request),
        (∀ e ∈ es, ∃ sent, ∃ r ∈ more, (remote sent r).FailsFetch s.platform e) ∧ w'.sent = w.sent ++ more ∧
        (∀ r ∈ more, ∃ caller ∈ callers, r = s.modelRequest referer caller) ∧
        ((s.schemas remote callers).run w = (es.map .error, w') ∧ w'.schemas = w.schemas ∧
            more.length = es.length ∨
          ∃ m n, (s.schemas remote callers).run w =
              (es.map .error ++ List.replicate (n + 1) (.ok (Schema.ofModel m)), w') ∧
            w'.schemas = Assoc.put s.name (Schema.ofModel m) w.schemas ∧ more.length = es.length + 1)) ∧
    ∀ (caller : String) (w : World) (c : SchemaCache) (name : String), c.Quiet → c.callers.lookup name = none →
      c.snapshot = w.schemas.lookup s.name →
      let p := (s.schema remote caller).run.run w
      let c' := c.get name ((s.fetchModel remote caller).run.run w).1
      c'.Quiet ∧ c'.snapshot = p.2.schemas.lookup s.name ∧ c'.callers.lookup name = some (SchemaCache.endOf p.1) ∧
        c'.fetches.length + w.sent.length = c.fetches.length + p.2.sent.length :=
  ⟨fun caller _ h => ⟨schema_cases hreferer remote caller h, schema_eq_defect_iff hreferer remote caller h⟩,
    fun callers _ h => schemas_cases hreferer remote callers h,
    fun caller _ _ _ hc hname hsnapshot => cache_get hreferer remote caller hc hname hsnapshot⟩

open Wire in
/-- A server that cannot be reached at first, then answers with an error page that is nested too deep, and then with its
model. -/
theorem schema_failure_leaves_no_trace_unreachable :
    let s : Server := { name := "g", url := "http://h" }
    let remote : Remote := fun sent _ =>
      match sent.length with
      | 0 => .failed "ConnectError"
      | 1 => .answered
        { status := 500, contentType := some "application/json", body := List.replicate (callLimit + 1) 0x5B }
      | _ => .answered { status := 200, body := frame (textField 5 "g") }
    ∃ f d schema w', (s.schemas remote ["", "", ""]).run {} =
        ([.error (.failure f), .error (.defect d), .ok schema], w') ∧
      f.kind = .schemaFetch ∧ d.name = "RecursionError" ∧ w'.sent.length = 3 := by
  intro s remote
  obtain ⟨hone, -, -⟩ := schema_failure_leaves_no_trace (show s.refererHeader = .ok none from rfl) remote
  -- nobody answers
  obtain ⟨⟨w₁, hsent₁, ⟨m, hm, -⟩ | ⟨-, e, -, hrun₁, hfails, hstored₁⟩⟩, -⟩ := hone "" {} rfl
  · cases hm
  obtain ⟨f, rfl, hkind⟩ : e.IsSchemaFetch := by
    cases hfails with
    | typed h => exact h
    | broken h => cases h
  -- the page cannot be read
  obtain ⟨⟨w₂, hsent₂, hcases₂⟩, hbreaks⟩ := hone "" w₁ (by rw [hstored₁]; rfl)
  have hpage : remote w₁.sent (s.modelRequest none "") = .answered
      { status := 500, contentType := some "application/json", body := List.replicate (callLimit + 1) 0x5B } := by
    rw [hsent₁]
    rfl
  rw [hpage] at hbreaks
  have hdeep := (hbreaks _).2 (Reply.breaks_brackets (Nat.lt_succ_self callLimit) (by decide))
  obtain ⟨m, -, hrun₂, -⟩ | ⟨-, e, -, hrun₂, -, hstored₂⟩ := hcases₂
  · rw [hrun₂] at hdeep
    cases hdeep
  rw [hrun₂] at hdeep
  obtain rfl := Except.error.inj hdeep
  -- the model is there
  obtain ⟨⟨w₃, hsent₃, ⟨m, -, hrun₃, -⟩ | ⟨e, -, he, -⟩⟩, -⟩ := hone "" w₂ (by rw [hstored₂, hstored₁]; rfl)
  · refine ⟨f, .tooDeep " while decoding a JSON array from a unicode string", Schema.ofModel m, w₃, ?_, hkind, rfl,
      by simp [hsent₃, hsent₂, hsent₁]⟩
    rw [run_schemas_cons hrun₁, run_schemas_cons hrun₂, run_schemas_cons hrun₃, run_schemas_nil]
  · have hreply : remote w₂.sent (s.modelRequest none "") =
        .answered { status := 200, body := frame (textField 5 "g") } := by
      rw [hsent₂, hsent₁]
      rfl
    have hdecode := DataModel.decode_globalId (show "g" ≠ "" by decide) (by decide +kernel)
    rw [hreply, Request.model_of_answered (by simp), Answer.model, if_neg (by decide), hdecode] at he
    cases he

end Server

end FeatureGraph
