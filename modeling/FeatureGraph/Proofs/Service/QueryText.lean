import FeatureGraph.Proofs.Query.Parameters
import FeatureGraph.Proofs.Service.Queries

/-! # The query text that is sent

A request for the features of a layer is settled into one query text or an error. The text is sent as it is, and
after an error nothing is sent. -/
namespace FeatureGraph

/-! ## Texts of queries -/

def Request.cypher? (r : Request) : Option String :=
  (Url.pairs (r.url.toList.reverse.takeWhile (· ≠ '?')).reverse).lookup "openCypherQuery"

def queryTexts (sent : List Request) : List (Option String) := (sent.filter (·.isQuery)).map (·.cypher?)

theorem queryTexts_append (sent more : List Request) :
    queryTexts (sent ++ more) = queryTexts sent ++ queryTexts more := by
  rw [queryTexts, List.filter_append, List.map_append]
  rfl

theorem queryTexts_of_queryCount {sent : List Request} (h : queryCount sent = 0) : queryTexts sent = [] := by
  rw [queryCount, List.countP_eq_length_filter] at h
  rw [queryTexts, List.length_eq_zero_iff.1 h]
  rfl

/-- The query text for a layer of a schema that some parameters ask for. -/
def Schema.queryText (schema : Schema) (policy : Cypher.SpatialPolicy) (layer params : Json) (platform : Platform := {}) :
    Except Fault String := do
  let l ← schema.layer layer
  Cypher.asked policy l.name l.geometryField params platform

namespace Session

variable {α β : Type} {x : Except Fault β} {text : β → Except Fault String} {f : β → Session α}

/-- A query text is sent as it is. An error ends it before anything is sent. -/
def Sends (text : Except Fault String) (x : Except Fault α) (sent : List Request) : Prop :=
  match text with
  | .ok t => queryTexts sent = [some t]
  | .error e => queryTexts sent = [] ∧ x = .error e

theorem Ensures.sends_bind (h : ∀ b, Ensures (Sends (text b)) (f b)) :
    Ensures (Sends (x >>= text)) (Session.ofFault x >>= f) := by
  cases x with
  | error e => exact .quiet (fun _ => rfl) fun _ => ⟨rfl, rfl⟩
  | ok b => exact h b

theorem Ensures.sends {text : Except Fault String} {f : String → Session α}
    (h : ∀ t, Ensures (fun _ sent => queryTexts sent = [some t]) (f t)) :
    Ensures (Sends text) (Session.ofFault text >>= f) := by
  have hbind : Ensures (Sends (text >>= Except.ok)) (Session.ofFault text >>= f) := .sends_bind h
  rwa [show text >>= Except.ok = text from bind_pure text] at hbind

theorem Ensures.sends_value {text : Except Fault String} {x : Session α} (h : Ensures (Sends text) x) (g : α → β) :
    Ensures (Sends text) (x >>= fun a => Pure.pure (g a)) := by
  cases text with
  | error e =>
    refine h.bind (fun e' sent hsends => ⟨hsends.1, ?_⟩) fun a sent hsends => nomatch hsends.2
    exact congrArg Except.error (Except.error.inj hsends.2)
  | ok t =>
    refine h.bind (fun _ _ hsends => hsends) fun a sent hsends => .pure ?_
    rwa [List.append_nil]

/-- What comes first sends no query. -/
theorem exists_sends_bind {y : Session β} {w : World} (hy : Ensures Unsent y) (hx : (y.run.run w).1 = x)
    (h : ∀ b, x = .ok b → Ensures (Sends (text b)) (f b)) :
    ∃ more, ((y >>= f).run.run w).2.sent = w.sent ++ more ∧ Sends (x >>= text) ((y >>= f).run.run w).1 more := by
  obtain ⟨sent, hsent, hunsent⟩ := hy w
  cases hrun : y.run.run w with
  | mk r w' =>
    rw [hrun] at hx hsent
    subst hx
    cases r with
    | error e =>
      rw [run_bind_of_error hrun]
      exact ⟨sent, hsent, queryTexts_of_queryCount hunsent, rfl⟩
    | ok b =>
      obtain ⟨more, hmore, hsends⟩ := h b rfl w'
      rw [run_bind_of_ok hrun]
      refine ⟨sent ++ more, by rw [hmore, hsent, List.append_assoc], ?_⟩
      change Sends (text b) _ _
      cases htext : text b with
      | error e =>
        rw [htext] at hsends
        exact ⟨by rw [queryTexts_append, queryTexts_of_queryCount hunsent, hsends.1]; rfl, hsends.2⟩
      | ok t =>
        rw [htext] at hsends
        change queryTexts (sent ++ more) = [some t]
        rw [queryTexts_append, queryTexts_of_queryCount hunsent, List.nil_append]
        exact hsends

end Session

namespace Server

open Session

variable {s : Server} {remote : Remote} {caller cypher : String} {referer : Option String}

theorem cypher?_of_url_eq {r : Request} (h : r.url = s.queryUrl cypher caller) : r.cypher? = some cypher := by
  rw [Request.cypher?, h, queryUrl, reverse_urlOf, List.takeWhile_append_of_pos (forall_mem_reverse_query _ _)]
  simp [Url.pairs_query]

theorem ensures_query (hreferer : s.refererHeader = .ok referer) (remote : Remote) (cypher caller : String) :
    Ensures (fun _ sent => queryTexts sent = [some cypher]) (s.query remote cypher caller) := by
  have hfetch : Ensures (fun _ sent => queryTexts sent = [some cypher]) (s.fetch remote (s.queryUrl cypher caller)) := by
    intro w
    rw [run_fetch hreferer]
    refine ⟨_, rfl, ?_⟩
    have hquery (r : Request) (h : r.url = s.queryUrl cypher caller) : queryTexts [r] = [some cypher] := by
      have hpath : r.isQuery = true := by
        rw [isQuery_of_url_eq h]
        simp
      simp [queryTexts, hpath, cypher?_of_url_eq h]
    exact hquery _ rfl
  refine hfetch.bind (fun _ _ h => h) fun a sent hsent => (blameless_rows a s.platform).mono ?_
  rintro x more ⟨rfl, -⟩
  rw [List.append_nil, hsent]

theorem sends_queryLayer (hreferer : s.refererHeader = .ok referer) (remote : Remote) (l : Layer) (params : Json)
    (caller : String) : Ensures (Sends (Cypher.asked s.policy l.name l.geometryField params s.platform))
      (s.queryLayer remote l params caller) := by
  refine Ensures.observed (.sends_bind fun q => .sends fun text => ?_) _ _
  refine (ensures_query hreferer remote text caller).bind (fun _ _ h => h) fun r sent hsent => .ofDefect ?_
  rwa [List.append_nil]

/-- A schema is fetched with a referer that can be sent. -/
theorem exists_refererHeader {schema : Schema} (h : ((s.schema remote caller).run.run {}).1 = .ok schema) :
    ∃ referer, s.refererHeader = .ok referer := by
  cases hreferer : s.refererHeader with
  | ok referer => exact ⟨referer, rfl⟩
  | error d =>
    have hschema : ((s.schema remote caller).run.run {}).1 = .error (.defect d) := by
      rw [Server.schema, fetchModel, fetch, getRequest, hreferer]
      rfl
    rw [hschema] at h
    cases h

end Server

/-! ## Exchanges -/

/-- What is sent and responded where a query text was found, or an error. -/
def Exchange.Tells (x : Exchange) : Except Fault String → Prop
  | .ok text => queryTexts x.sent = [some text]
  | .error e => queryTexts x.sent = [] ∧ x.response = .ofFault e

namespace FeatureRequest

open Session

variable {remote : Remote} {servers : List Server} {s : Server} {service layer : String} {q : QueryTexts} {w : World}

def ofQuery (service layer : String) (q : QueryTexts) : FeatureRequest where
  service
  layer := .text layer
  method := .text "query"
  query := q.parameters

/-- A request in a world, with its response and what is sent for it. -/
def exchange (remote : Remote) (servers : List Server) (w : World) (r : FeatureRequest) : Exchange :=
  let p := (r.respond remote servers).run w
  ⟨r, p.1, p.2.sent.drop w.sent.length⟩

theorem tells_of_sends {r : FeatureRequest} {text : Except Fault String} {more : List Request}
    (hsent : ((r.body remote servers).run.run w).2.sent = w.sent ++ more)
    (h : Sends text ((r.body remote servers).run.run w).1 more) : (r.exchange remote servers w).Tells text := by
  have hworld : ((r.respond remote servers).run w).2 = ((r.body remote servers).run.run w).2 := by
    rw [respond, StateT.run_bind]
    rcases (r.body remote servers).run.run w with ⟨_ | _, w'⟩ <;> rfl
  have hexchange : (r.exchange remote servers w).sent = more := by
    rw [exchange, hworld, hsent, List.drop_left]
  cases text with
  | ok t => exact (congrArg queryTexts hexchange).trans h
  | error e =>
    refine ⟨(congrArg queryTexts hexchange).trans h.1, ?_⟩
    obtain ⟨-, herror⟩ := h
    rw [exchange, respond, StateT.run_bind]
    rcases hrun : (r.body remote servers).run.run w with ⟨x, w'⟩
    rw [hrun] at herror
    obtain rfl : x = .error e := herror
    rfl

theorem body_ofQuery (hfind : servers.find? (·.name == service) = some s) (hlayer : layer ≠ "") :
    (ofQuery service layer q).body remote servers = (do
      let schema ← s.schema remote ""
      let l ← Session.ofFault (schema.layer (.text layer))
      return (← s.queryLayer remote l q.parameters "").value) := by
  have hget (name : String) := Json.get_ofPresent q.nodup_fields name
  have htoken : q.parameters.get "token" = .null := hget "token"
  have hrelationship : q.parameters.get "relationshipId" = .null := hget "relationshipId"
  have hblank : (Json.text layer).isBlank = false := String.isEmpty_eq_false_iff.2 hlayer
  have hbody : (ofQuery service layer q).body remote servers = (do
      let l ← s.layer remote (.text layer) ""
      return (← s.queryLayer remote l q.parameters "").value) := by
    rw [body, show (ofQuery service layer q).service = service from rfl, hfind]
    simp only [ofQuery, htoken, hrelationship, hblank, queryMethod?]
    rfl
  rw [hbody, Server.layer, bind_assoc]

/-- The request for the query of a layer, where the fetch of the schema ends in a known way. -/
theorem tells_ofQuery {schema : Except Fault Schema} (hfind : servers.find? (·.name == service) = some s)
    (hlayer : layer ≠ "") (hschema : ((s.schema remote "").run.run w).1 = schema)
    (hreferer : ∀ a, schema = .ok a → ∃ referer, s.refererHeader = .ok referer) :
    ((ofQuery service layer q).exchange remote servers w).Tells
      (schema >>= fun a => a.queryText s.policy (.text layer) q.parameters s.platform) := by
  have hrest (a : Schema) (ha : schema = .ok a) :
      Ensures (Sends (a.queryText s.policy (.text layer) q.parameters s.platform)) (do
      let l ← Session.ofFault (a.layer (.text layer))
      return (← s.queryLayer remote l q.parameters "").value) := by
    obtain ⟨referer, hok⟩ := hreferer a ha
    exact .sends_bind fun l => (Server.sends_queryLayer hok remote l q.parameters "").sends_value (·.value)
  obtain ⟨more, hsent, hsends⟩ := exists_sends_bind (Server.unsent_schema s remote "") hschema hrest
  rw [← body_ofQuery hfind hlayer] at hsent hsends
  exact tells_of_sends hsent hsends

end FeatureRequest
end FeatureGraph
