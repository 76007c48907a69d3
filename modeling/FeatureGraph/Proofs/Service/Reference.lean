import FeatureGraph.Proofs.Schema.Reference
import FeatureGraph.Proofs.Service.Schema
import FeatureGraph.Service.Handler

/-! # Requests with a reference to a layer

A request whose reference comes to no layer is the caller's fault, unless the reference escapes: then the service is
blamed for it. -/
namespace FeatureGraph

/-- The response tells an error by its status and its name. -/
structure FeatureResponse.Tells (x : FeatureResponse) (code : Nat) (name : String) : Prop where
  failed : x.ok = false
  status : x.status = code
  body : ∃ members, x.body = .ofJson (.object members) ∧ members.lookup "code" = some (.int code) ∧
    members.lookup "error" = some (.text name)

theorem FeatureResponse.tells_ofFault (e : Fault) : (FeatureResponse.ofFault e).Tells e.status e.name :=
  ⟨rfl, rfl, _, rfl, rfl, rfl⟩

variable {remote : Remote} {w w' : World} {schema : Schema} {e : Fault}

theorem Server.run_layer {s : Server} {caller : String} (h : (s.schema remote caller).run.run w = (.ok schema, w'))
    (ref : Json) : (s.layer remote ref caller).run.run w = (schema.layer ref, w') := by
  rw [Server.layer, Session.run_bind_of_ok h]
  rfl

namespace FeatureRequest

variable {servers : List Server} {r : FeatureRequest}

theorem respond_of_error (h : (r.body remote servers).run.run w = (.error e, w')) :
    (r.respond remote servers).run w = (.ofFault e, w') := by
  rw [respond, StateT.run_bind, h]
  rfl

/-- The response tells what is wrong with the reference. -/
theorem tells_of_layer_error {s : Server} (hserver : servers.find? (·.name == r.service) = some s)
    (hschema : (s.schema remote (tokenText (r.query.get "token"))).run.run w = (.ok schema, w'))
    (hlayer : r.layer.isBlank = false) (h : schema.layer r.layer = .error e) :
    ((r.respond remote servers).run w).1.Tells e.status e.name := by
  have hrun := Server.run_layer hschema r.layer
  rw [h] at hrun
  have hbody : (r.body remote servers).run.run w = (.error e, w') := by
    rw [body, hserver]
    dsimp only
    rw [if_neg (by rw [hlayer]; decide)]
    exact Session.run_bind_of_error hrun _
  rw [respond_of_error hbody]
  exact FeatureResponse.tells_ofFault e

/-- A reference comes to the layer that it names, or is invalid if it names none, unless it escapes. A request whose
reference names no layer is responded to accordingly: with status 400, or with 500 if the reference escapes. -/
theorem layer_references_settle (remote : Remote) (servers : List Server) :
    (∀ (s : Schema) (ref : Json), s.SettlesUnless (s.Escapes ref) ref) ∧
      ∀ (r : FeatureRequest) (s : Server) (schema : Schema) (w w' : World),
        servers.find? (·.name == r.service) = some s →
        (s.schema remote (tokenText (r.query.get "token"))).run.run w = (.ok schema, w') →
        r.layer.isBlank = false → (∀ i, Schema.Names r.layer i → schema.all.length ≤ i) →
        let response := ((r.respond remote servers).run w).1
        (¬schema.Escapes r.layer → response.Tells 400 "InvalidLayerId") ∧
          (schema.Escapes r.layer → response.Tells 500 "ValueError") := by
  refine ⟨Schema.layer_settlesUnless, ?_⟩
  intro r s schema w w' hserver hschema hlayer hnone response
  obtain ⟨hsettled, hdefective⟩ := schema.layer_settlesUnless r.layer
  constructor
  · intro hsafe
    rcases hsettled hsafe with ⟨i, l, hi, hl, -⟩ | ⟨-, f, herror, hkind⟩
    · rw [List.getElem?_eq_none (hnone i hi)] at hl
      cases hl
    · have htells := tells_of_layer_error hserver hschema hlayer herror
      rwa [Fault.status, Fault.name, hkind] at htells
  · intro hescapes
    obtain ⟨d, herror, hname⟩ := hdefective hescapes
    have htells := tells_of_layer_error hserver hschema hlayer herror
    rwa [Fault.status, Fault.name, hname] at htells

/-- A superscript two, and a word. -/
theorem layer_references_settle_superscript :
    let schema : Schema := .ofModel { entityTypes := [{ name := "Well" }] }
    let respond (ref : String) := ((FeatureRequest.respond (fun _ _ => .failed "ConnectError")
      [{ name := "g", url := "http://h" }] { service := "g", layer := .text ref }).run { schemas := [("g", schema)] }).1
    Schema.IsDefective (schema.layer (.text "²")) ∧ (respond "²").Tells 500 "ValueError" ∧
      (respond "x").Tells 400 "InvalidLayerId" := by
  intro schema respond
  obtain ⟨hlayer, hrespond⟩ :=
    layer_references_settle (fun _ _ => .failed "ConnectError") [{ name := "g", url := "http://h" }]
  have hsuperscript : schema.Escapes (.text "²") := schema.escapes_superscript
  have hword : ¬schema.Escapes (.text "x") := fun h => absurd (h.2.1 'x' (by decide)) (by decide)
  have hnone {t : String} {c : Char} (ht : Text.trim t.toList = [c]) (hc : Text.digitValue c = none) (i : Nat)
      (hi : Schema.Names (.text t) i) : schema.all.length ≤ i := by
    obtain ⟨-, ds, hds, -⟩ := hi
    rw [ht, List.map_singleton, hc] at hds
    cases ds <;> cases hds
  refine ⟨(hlayer schema (.text "²")).defective hsuperscript, ?_, ?_⟩
  · exact (hrespond { service := "g", layer := .text "²" } _ schema _ _ rfl (Server.run_schema_of_stored rfl) (by decide)
      (hnone (show Text.trim ['²'] = ['²'] from rfl) rfl)).2 hsuperscript
  · exact (hrespond { service := "g", layer := .text "x" } _ schema _ _ rfl (Server.run_schema_of_stored rfl) (by decide)
      (hnone (show Text.trim ['x'] = ['x'] from rfl) rfl)).1 hword

end FeatureRequest
end FeatureGraph
