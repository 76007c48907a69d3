import FeatureGraph.Proofs.Response.Failure
import FeatureGraph.Proofs.Service.Schema
import FeatureGraph.Proofs.Url.Percent
import FeatureGraph.Service.Handler

/-! # When a query is sent

A request for features sends at most one query. What the caller got wrong is found before it is sent, so an error
that is the caller's leaves no query behind, and a query that was answered was sent once. -/
namespace FeatureGraph

/-! ## Requests for queries -/

/-- Whether a request is one for a query: what stands before the last question mark ends in the path of queries. -/
def Request.isQuery (r : Request) : Bool :=
  "/graph/query?".toList.reverse.isPrefixOf (r.url.toList.reverse.dropWhile (· ≠ '?'))

namespace Server

variable {s : Server} {remote : Remote} {caller : String}

theorem reverse_urlOf (path : String) (blank : Url.Blank) (ps : List (String × String)) :
    (s.urlOf path blank ps caller).toList.reverse =
      (Url.query blank (ps ++ [("f", "pbf"), ("token", s.tokenFor caller)])).reverse ++
        '?' :: (path.toList.reverse ++ s.url.toList.reverse) := by
  simp [urlOf]

theorem forall_mem_reverse_query (blank : Url.Blank) (ps : List (String × String)) :
    ∀ c ∈ (Url.query blank ps).reverse, decide (c ≠ '?') = true := by
  intro c hc
  have hne : c ≠ '?' := by
    rintro rfl
    exact Url.notMem_query (by decide) (by decide) _ (List.mem_reverse.1 hc)
  exact decide_eq_true hne

theorem dropWhile_urlOf (path : String) (blank : Url.Blank) (ps : List (String × String)) :
    (s.urlOf path blank ps caller).toList.reverse.dropWhile (· ≠ '?') =
      '?' :: (path.toList.reverse ++ s.url.toList.reverse) := by
  rw [reverse_urlOf, List.dropWhile_append_of_pos (forall_mem_reverse_query _ _)]
  simp

theorem isQuery_of_url_eq {r : Request} {path : String} {blank : Url.Blank} {ps : List (String × String)}
    (h : r.url = s.urlOf path blank ps caller) :
    r.isQuery = "/graph/query".toList.reverse.isPrefixOf (path.toList.reverse ++ s.url.toList.reverse) := by
  rw [Request.isQuery, h, dropWhile_urlOf]
  rfl

end Server

/-! ## What each step sends -/

def Fault.IsClients (e : Fault) : Prop := e.status = 400 ∨ e.status = 404

theorem Fault.not_isClients_failure {f : Failure} (h : f.kind.status = 502) : ¬(failure f).IsClients := by
  rintro (h' | h') <;> simp [status, h] at h'

theorem Fault.not_isClients_defect (d : Defect) : ¬(defect d).IsClients := by
  rintro (h | h) <;> cases h

def queryCount (sent : List Request) : Nat := sent.countP (·.isQuery)

namespace Session

variable {α β : Type}

/-- No query has been sent, whatever the result is. -/
def Unsent (_ : Except Fault α) (sent : List Request) : Prop := queryCount sent = 0

/-- Nothing is sent, and an error is not the caller's. -/
def Blameless (x : Except Fault α) (sent : List Request) : Prop := sent = [] ∧ FailsWith (¬·.IsClients) x

/-- A query has been sent once if there is a result, and not at all if the error is the caller's. -/
structure Settled (x : Except Fault α) (sent : List Request) : Prop where
  once : queryCount sent ≤ 1
  unsent : ∀ e, x = .error e → e.IsClients → queryCount sent = 0
  answered : ∀ a, x = .ok a → queryCount sent = 1

theorem Settled.of_unsent {e : Fault} {sent : List Request} (h : queryCount sent = 0) :
    Settled (.error e : Except Fault α) sent where
  once := by omega
  unsent _ _ _ := h
  answered := nofun

theorem Settled.error {e : Fault} {sent : List Request} (h : Settled (.error e : Except Fault α) sent) :
    Settled (.error e : Except Fault β) sent where
  once := h.once
  unsent e' he' := h.unsent e' (congrArg Except.error (Except.error.inj he'))
  answered := nofun

variable {x : Session α} {f : α → Session β}

theorem Ensures.unsent_bind (hx : Ensures Unsent x) (hf : ∀ a, Ensures Unsent (f a)) : Ensures Unsent (x >>= f) := by
  refine hx.bind (fun _ _ h => h) fun a sent hsent => (hf a).mono fun r more hmore => ?_
  rw [Unsent, queryCount] at *
  rw [List.countP_append, hsent, hmore]

/-- What comes before the query sends none. -/
theorem Ensures.settled_bind (hx : Ensures Unsent x) (hf : ∀ a, Ensures Settled (f a)) :
    Ensures Settled (x >>= f) := by
  refine hx.bind (fun _ _ h => .of_unsent h) fun a sent hsent => (hf a).mono fun r more hmore => ?_
  have hcount : queryCount (sent ++ more) = queryCount more := by
    rw [Unsent, queryCount] at hsent
    rw [queryCount, List.countP_append, hsent, Nat.zero_add]
    rfl
  exact ⟨hcount ▸ hmore.once, fun e he hclient => hcount.trans (hmore.unsent e he hclient),
    fun b hb => hcount.trans (hmore.answered b hb)⟩

/-- What comes after it sends nothing, and an error is not the caller's. -/
theorem Ensures.settled_bind_blameless (hx : Ensures Settled x) (hf : ∀ a, Ensures Blameless (f a)) :
    Ensures Settled (x >>= f) := by
  refine hx.bind (fun e sent h => h.error) fun a sent h => (hf a).mono ?_
  rintro r more ⟨rfl, hblameless⟩
  rw [List.append_nil]
  exact ⟨h.once, fun e he hclient => absurd hclient (hblameless e he), fun b _ => h.answered a rfl⟩

theorem Ensures.blameless_bind (hx : Ensures Blameless x) (hf : ∀ a, Ensures Blameless (f a)) :
    Ensures Blameless (x >>= f) := by
  refine hx.bind (fun e sent h => ⟨h.1, .error (h.2 e rfl)⟩) fun a sent h => (hf a).mono ?_
  rintro r more ⟨rfl, hblameless⟩
  exact ⟨by rw [h.1, List.append_nil], hblameless⟩

end Session

theorem Request.answer_failsWith (r : Request) (reply : Reply) : FailsWith (¬·.IsClients) (r.answer reply) := by
  unfold Request.answer
  split
  · exact .error (Fault.not_isClients_failure rfl)
  · exact .error (Fault.not_isClients_defect _)
  · split
    · exact .error (Fault.not_isClients_failure rfl)
    · exact .ok _

theorem Answer.rows_failsWith (a : Answer) (platform : Platform) : FailsWith (¬·.IsClients) (a.rows platform) := by
  unfold Answer.rows
  split
  · unfold graphFailure
    cases a.errorPayload platform with
    | error d => exact .error (Fault.not_isClients_defect d)
    | ok payload => exact .error (Fault.not_isClients_failure rfl)
  · have hsettled := QueryResponse.decode_settled a.body
    generalize QueryResponse.decode a.body = x at hsettled ⊢
    cases hsettled with
    | ok r => exact .ok r
    | refused f hf => exact .error (Fault.not_isClients_failure (by rw [hf]; rfl))
    | missized => exact .error (Fault.not_isClients_defect _)

theorem Answer.kind_error_of_rows {a : Answer} {platform : Platform} {r : QueryResponse} (h : a.rows platform = .ok r) :
    ∀ f ∈ r.error, f.kind = .graphQuery := by
  unfold rows at h
  split at h
  · obtain ⟨f, -, hfails⟩ := exists_of_bind_eq_ok h
    cases hfails
  · exact QueryResponse.kind_error_of_decode h

namespace Server

open Session

variable {s : Server} {remote : Remote} {caller : String}

/-- A request is sent unless it cannot be made, and fails on the way only. -/
theorem ensures_fetch (s : Server) (remote : Remote) (url : String) :
    Ensures (fun x sent => (∀ r ∈ sent, r.url = url) ∧ sent.length ≤ 1 ∧ (∀ a, x = .ok a → sent.length = 1) ∧
      FailsWith (¬·.IsClients) x) (s.fetch remote url) := by
  intro w
  cases hreferer : s.refererHeader with
  | error d =>
    have hget : (ofDefect (s.getRequest url)).run.run w = (.error (.defect d), w) := by
      rw [getRequest, hreferer]
      rfl
    rw [fetch, run_bind_of_error hget]
    exact ⟨[], by simp, by simp, by simp, by simp, .error (Fault.not_isClients_defect d)⟩
  | ok referer =>
    rw [run_fetch hreferer]
    exact ⟨_, rfl, by simp, by simp, fun _ _ => rfl, Request.answer_failsWith _ _⟩

theorem unsent_schema (s : Server) (remote : Remote) (caller : String) : Ensures Unsent (s.schema remote caller) := by
  have hmodel : Ensures Unsent (s.fetchModel remote caller) := by
    refine .unsent_bind (.quiet (fun _ => rfl) fun _ => rfl) fun _ => ?_
    refine .unsent_bind ((ensures_fetch s remote (s.modelUrl caller)).mono ?_) fun a => .ofFault rfl
    rintro x sent ⟨hurl, -⟩
    refine List.countP_eq_zero.2 fun r hr => ?_
    rw [isQuery_of_url_eq (hurl r hr)]
    simp
  refine .unsent_bind (.quiet (fun _ => rfl) fun _ => rfl) fun w => ?_
  cases w.schemas.lookup s.name with
  | some schema => exact .pure rfl
  | none =>
    refine .unsent_bind (fun w => ?_) fun answer => .unsent_bind (.ofFault rfl) fun schema => ?_
    · obtain ⟨more, hsent, hmore⟩ := hmodel w
      exact ⟨more, hsent, hmore⟩
    · exact .unsent_bind (.quiet (fun _ => rfl) fun _ => rfl) fun _ => .pure rfl

theorem unsent_layer (s : Server) (remote : Remote) (ref : Json) (caller : String) :
    Ensures Unsent (s.layer remote ref caller) :=
  (unsent_schema s remote caller).unsent_bind fun _ => .ofFault rfl

/-- What is done with an answer sends nothing. -/
theorem blameless_rows (a : Answer) (platform : Platform) : Ensures Blameless (do
    let r ← Session.ofFault (a.rows platform)
    match r.error with
    | some f => throw (.failure (withPartialRows f r.rows.length))
    | none =>
      Session.count "query_rows" r.rows.length
      return r) := by
  refine Ensures.bind (P := fun x sent => x = a.rows platform ∧ sent = []) (.ofFault ⟨rfl, rfl⟩) ?_ ?_
  · rintro e sent ⟨he, rfl⟩
    exact ⟨rfl, .error (a.rows_failsWith platform e he.symm)⟩
  · rintro r sent ⟨hr, rfl⟩
    cases herror : r.error with
    | some f =>
      have hkind : (withPartialRows f r.rows.length).kind = .graphQuery := by
        rw [← Answer.kind_error_of_rows hr.symm f herror]
        unfold withPartialRows
        split <;> rfl
      exact .throw ⟨rfl, .error (Fault.not_isClients_failure (by rw [hkind]; rfl))⟩
    | none => exact .blameless_bind (.quiet (fun _ => rfl) fun _ => ⟨rfl, .ok ()⟩) fun _ => .pure ⟨rfl, .ok r⟩

theorem settled_query (s : Server) (remote : Remote) (cypher caller : String) :
    Ensures Settled (s.query remote cypher caller) := by
  have hfetch : Ensures Settled (s.fetch remote (s.queryUrl cypher caller)) := by
    refine (ensures_fetch s remote _).mono ?_
    rintro x sent ⟨hurl, hlength, hsent, hblameless⟩
    have hcount : queryCount sent = sent.length := by
      refine List.countP_eq_length.2 fun r hr => ?_
      rw [isQuery_of_url_eq (hurl r hr)]
      simp
    exact ⟨hcount ▸ hlength, fun e he hclient => absurd hclient (hblameless e he), fun a ha => hcount ▸ hsent a ha⟩
  exact hfetch.settled_bind_blameless fun a => blameless_rows a s.platform

/-- What is made of a response without sending anything. -/
theorem settled_query_ofDefect {α : Type} (s : Server) (remote : Remote) (cypher caller : String)
    (f : QueryResponse → Except Defect α) :
    Ensures Settled (s.query remote cypher caller >>= fun r => Session.ofDefect (f r)) :=
  (settled_query s remote cypher caller).settled_bind_blameless fun _ =>
    .ofDefect ⟨rfl, FailsWith.trivial.mapError fun d _ => Fault.not_isClients_defect d⟩

theorem settled_queryLayer (s : Server) (remote : Remote) (l : Layer) (params : Json) (caller : String) :
    Ensures Settled (s.queryLayer remote l params caller) := by
  refine Ensures.observed ?_ _ _
  exact .settled_bind (.ofFault rfl) fun q => .settled_bind (.ofFault rfl) fun cypher =>
    settled_query_ofDefect s remote cypher caller _

theorem settled_queryRelated (s : Server) (remote : Remote) (l : Layer) (ref params : Json) (caller : String) :
    Ensures Settled (s.queryRelated remote l ref params caller) := by
  refine Ensures.observed ?_ _ _
  refine .settled_bind (.ofFault rfl) fun r => .settled_bind (unsent_layer s remote _ caller) fun related => ?_
  exact .settled_bind (.ofFault rfl) fun q => .settled_bind (.ofFault rfl) fun cypher =>
    settled_query_ofDefect s remote cypher caller _

end Server

/-! ## Requests for features -/

theorem Fault.status_ne_ok (e : Fault) : e.status ≠ 200 := by
  cases e with
  | failure f =>
    rw [status]
    cases f.kind <;> decide
  | defect d =>
    change 500 ≠ 200
    decide

/-- A request for features with its response, and what was sent for it. -/
structure Exchange where
  request : FeatureRequest
  response : FeatureResponse
  sent : List Request

namespace FeatureRequest

open Session

variable {remote : Remote} {servers : List Server} {r : FeatureRequest}

/-- A request for a query of a layer, or of what a layer is related to. -/
def AsksQuery (r : FeatureRequest) : Prop := r.layer.isBlank = false ∧ (queryMethod? r.method).isSome

theorem unsent_body (h : ¬r.AsksQuery) : Ensures Unsent (r.body remote servers) := by
  unfold body
  split
  · exact .throw rfl
  · next s _ =>
    dsimp only
    split
    · exact (Server.unsent_schema s remote _).unsent_bind fun _ => .pure rfl
    · next hlayer =>
      refine (Server.unsent_layer s remote _ _).unsent_bind fun l => ?_
      split
      · exact .pure rfl
      · next method hmethod => exact absurd ⟨eq_false_of_ne_true hlayer, by rw [hmethod]; rfl⟩ h

theorem settled_body (h : r.AsksQuery) : Ensures Settled (r.body remote servers) := by
  obtain ⟨hlayer, hmethod⟩ := h
  unfold body
  split
  · exact .throw (.of_unsent rfl)
  · next s _ =>
    dsimp only
    rw [if_neg (by rw [hlayer]; decide)]
    refine .settled_bind (Server.unsent_layer s remote _ _) fun l => ?_
    split
    · next hnone =>
      rw [hnone] at hmethod
      cases hmethod
    · split
      · exact (Server.settled_queryRelated s remote _ _ _ _).settled_bind_blameless fun _ => .pure ⟨rfl, .ok _⟩
      · split
        · exact .throw (.of_unsent rfl)
        · exact (Server.settled_queryLayer s remote _ _ _).settled_bind_blameless fun _ => .pure ⟨rfl, .ok _⟩

def respondAll (remote : Remote) (servers : List Server) : List FeatureRequest → StateM World (List Exchange)
  | [] => return []
  | r :: rs => do
    let before := (← get).sent.length
    let response ← r.respond remote servers
    let sent := (← get).sent.drop before
    return ⟨r, response, sent⟩ :: (← respondAll remote servers rs)

end FeatureRequest

/-- At most one query is sent for a request, none if the response blames the caller, and one if the query that was asked
for is answered. -/
structure Exchange.Settled (x : Exchange) : Prop where
  once : queryCount x.sent ≤ 1
  unsent : x.response.status = 400 ∨ x.response.status = 404 → queryCount x.sent = 0
  answered : x.request.AsksQuery → x.response.status = 200 → queryCount x.sent = 1

namespace FeatureRequest

open Session

/-- One request in any world. -/
theorem respond_settled (remote : Remote) (servers : List Server) (r : FeatureRequest) (w : World) :
    ∃ more, ((r.respond remote servers).run w).2.sent = w.sent ++ more ∧
      Exchange.Settled ⟨r, ((r.respond remote servers).run w).1, more⟩ := by
  have hbody : Ensures (fun x sent => queryCount sent ≤ 1 ∧ (∀ e, x = .error e → e.IsClients → queryCount sent = 0) ∧
      (r.AsksQuery → ∀ v, x = .ok v → queryCount sent = 1)) (r.body remote servers) := by
    by_cases h : r.AsksQuery
    · exact (settled_body h).mono fun x sent hx => ⟨hx.once, hx.unsent, fun _ => hx.answered⟩
    · refine (unsent_body h).mono fun x sent hx => ⟨?_, fun _ _ _ => hx, fun h' => absurd h' h⟩
      rw [show queryCount sent = 0 from hx]
      exact Nat.zero_le 1
  obtain ⟨more, hsent, honce, hunsent, hanswered⟩ := hbody w
  rw [respond, StateT.run_bind]
  cases hrun : (r.body remote servers).run.run w with
  | mk x w' =>
    rw [hrun] at hsent hunsent hanswered
    cases x with
    | ok v =>
      have hok : ¬(200 = 400 ∨ 200 = 404) := by decide
      exact ⟨more, hsent, honce, fun h => absurd h hok, fun h _ => hanswered h v rfl⟩
    | error e => exact ⟨more, hsent, honce, hunsent e rfl, fun _ h => absurd h e.status_ne_ok⟩

/-- Whatever the remote service answers, each of some requests sends at most one query. One that ends in an error of the
caller's sends none, and one that asks for a query and is answered sends one. -/
theorem respondAll_settled (remote : Remote) (servers : List Server) (rs : List FeatureRequest) (w : World) :
    let p := (respondAll remote servers rs).run w
    p.1.map (·.request) = rs ∧ p.2.sent = w.sent ++ p.1.flatMap (·.sent) ∧ ∀ x ∈ p.1, x.Settled := by
  induction rs generalizing w with
  | nil => exact ⟨rfl, (List.append_nil w.sent).symm, nofun⟩
  | cons r rs ih =>
    obtain ⟨more, hsent, hsettled⟩ := respond_settled remote servers r w
    let w' := ((r.respond remote servers).run w).2
    obtain ⟨hrequests, hrest, hall⟩ := ih w'
    have hdrop : w'.sent.drop w.sent.length = more := by
      rw [show w'.sent = w.sent ++ more from hsent, List.drop_left]
    have hrun : (respondAll remote servers (r :: rs)).run w =
        (⟨r, ((r.respond remote servers).run w).1, more⟩ :: ((respondAll remote servers rs).run w').1,
          ((respondAll remote servers rs).run w').2) := by
      rw [← hdrop]
      rfl
    rw [hrun]
    refine ⟨by rw [List.map_cons, hrequests], ?_, List.forall_mem_cons.2 ⟨hsettled, hall⟩⟩
    rw [hrest, show w'.sent = w.sent ++ more from hsent, List.flatMap_cons, List.append_assoc]

/-- A query for related features that names no relationship, and a query of a layer in which nothing is found. -/
theorem respondAll_settled_related :
    let schema : Schema := .ofModel { entityTypes := [{ name := "Well" }] }
    let remote : Remote := fun _ _ => .answered { status := 200, body := Wire.frame [] }
    let p := (respondAll remote [{ name := "g", url := "http://h" }]
      [{ service := "g", layer := .int 0, method := .text "queryRelatedRecords" },
        { service := "g", layer := .int 0, method := .text "query" }]).run { schemas := [("g", schema)] }
    ∃ x y, p.1 = [x, y] ∧ x.response.status = 400 ∧ queryCount x.sent = 0 ∧ y.response.status = 200 ∧
      queryCount y.sent = 1 := by
  intro schema remote p
  obtain ⟨-, -, hsettled⟩ := respondAll_settled remote [{ name := "g", url := "http://h" }]
    [{ service := "g", layer := .int 0, method := .text "queryRelatedRecords" },
      { service := "g", layer := .int 0, method := .text "query" }] { schemas := [("g", schema)] }
  have hstatus : ∃ x y, p.1 = [x, y] ∧ x.response.status = 400 ∧ y.response.status = 200 ∧ y.request.AsksQuery :=
    ⟨_, _, rfl, by decide +kernel, by decide +kernel, rfl, rfl⟩
  obtain ⟨x, y, hp, hclient, hok, hasks⟩ := hstatus
  have hx : x ∈ p.1 := by simp [hp]
  have hy : y ∈ p.1 := by simp [hp]
  exact ⟨x, y, hp, hclient, (hsettled x hx).unsent (.inl hclient), hok, (hsettled y hy).answered hasks hok⟩

end FeatureRequest
end FeatureGraph
