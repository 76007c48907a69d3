import FeatureGraph.Proofs.CommandLine.Options
import FeatureGraph.Proofs.Service.QueryText

/-! # The command line and the service

The text that the command line prints for the query of a layer is the one that the service sends for it. -/
namespace FeatureGraph.CommandLine

def optionsOf (service layer : String) (q : QueryTexts) : List (Flag × Option String) :=
  [(⟨"service", .text⟩, some service), (⟨"layer", .text⟩, some layer), (⟨"where", .text⟩, q.filter),
    (⟨"object-ids", .text⟩, q.objectIds), (⟨"geometry", .text⟩, q.geometry), (⟨"in-sr", .text⟩, q.inReference),
    (⟨"spatial-rel", .text⟩, q.relation), (⟨"ids-only", .flag⟩, if QueryTexts.isOn q.idsOnly then some "" else none),
    (⟨"count-only", .flag⟩, if QueryTexts.isOn q.countOnly then some "" else none), (⟨"limit", .whole⟩, q.limit)]

def given? (service layer : String) (q : QueryTexts) : List (Flag × String) :=
  (optionsOf service layer q).filterMap fun p => p.2.map (p.1, ·)

def commandLine (service layer : String) (q : QueryTexts) : List String :=
  "cypher" :: arguments (given? service layer q)

def option? (service layer : String) (q : QueryTexts) (name : String) : Option String :=
  (((optionsOf service layer q).map fun p => (p.1.name, p.2)).lookup name).join

/-- Arguments that are read as the command for the query of a layer, with its options in any order and form. -/
def Asks (path : Option String) (service layer : String) (q : QueryTexts) (args : List String) : Prop :=
  ∃ s, Invocation.ofArguments args = .ok ⟨path, .cypher s⟩ ∧ ∀ name, s.get? name = option? service layer q name

section Settings
variable {service layer : String} {q : QueryTexts} {s : Settings}

theorem accepted_of_mem_given? (h : ∀ t ∈ q.limit, (Number.integer? t.toList).isSome) :
    ∀ p ∈ given? service layer q, Accepted cypherOptions p := by
  intro p hp
  obtain ⟨⟨o, value⟩, ho, hvalue⟩ := List.mem_filterMap.1 hp
  obtain ⟨t, rfl, rfl⟩ := Option.map_eq_some_iff.1 hvalue
  have hoptions : ∀ p ∈ optionsOf service layer q, p.1 ∈ cypherOptions ∧ p.1 ≠ helpFlag := by
    simp [optionsOf, cypherOptions, helpFlag]
  have hflags : ∀ p ∈ optionsOf service layer q, p.1.kind = .flag → ∀ t ∈ p.2, t = "" := by
    simp [optionsOf]
  have hwhole : ∀ p ∈ optionsOf service layer q, p.1.kind = .whole → p.2 = q.limit := by
    simp [optionsOf]
  exact ⟨(hoptions _ ho).1, (hoptions _ ho).2, fun hk => hflags _ ho hk t rfl, fun hk => h t (hwhole _ ho hk).symm⟩

theorem asks_commandLine (h : ∀ t ∈ q.limit, (Number.integer? t.toList).isSome) :
    Asks none service layer q (commandLine service layer q) := by
  refine ⟨_, ofArguments_cypher (accepted_of_mem_given? h), fun name => ?_⟩
  let fields := (optionsOf service layer q).map fun p => (p.1.name, p.2)
  have hsettings : settingsOf (given? service layer q) = Assoc.present fields := by
    rw [settingsOf, given?, Assoc.present, List.map_filterMap, List.filterMap_map]
    refine List.filterMap_congr fun p _ => ?_
    obtain ⟨o, value⟩ := p
    cases value <;> rfl
  have hnodup : (fields.map Prod.fst).Nodup := by simp [fields, optionsOf]
  have hreverse : (fields.reverse.map Prod.fst).Nodup := by rwa [List.map_reverse, List.nodup_reverse]
  rw [Settings.get?, hsettings, Assoc.present_reverse, Assoc.lookup_present hreverse, Assoc.lookup_reverse hnodup]
  rfl

/-- A limit that is no whole number is refused. -/
theorem ofArguments_commandLine {t : String} (ht : q.limit = some t) (hnone : Number.integer? t.toList = none) :
    Invocation.ofArguments (commandLine service layer q) = .error .usage := by
  let rest : QueryTexts := { q with limit := none }
  have hgiven : given? service layer q = given? service layer rest ++ [(⟨"limit", .whole⟩, t)] := by
    obtain ⟨options, hq, hrest⟩ : ∃ options, optionsOf service layer q = options ++ [(⟨"limit", .whole⟩, q.limit)] ∧
        optionsOf service layer rest = options ++ [(⟨"limit", .whole⟩, none)] :=
      ⟨(optionsOf service layer q).dropLast, rfl, rfl⟩
    rw [given?, given?, hq, hrest, ht]
    simp
  have haccepted : ∀ p ∈ given? service layer rest, Accepted cypherOptions p := accepted_of_mem_given? nofun
  rw [commandLine, hgiven]
  exact ofArguments_refused haccepted (by decide) rfl hnone

theorem isSome_of_asks {path : Option String} {args : List String} (h : Asks path service layer q args) :
    ∀ t ∈ q.limit, (Number.integer? t.toList).isSome := by
  intro t ht
  obtain ⟨s, hargs, hget⟩ := h
  obtain ⟨ps, hps, rfl⟩ := isAccepted_of_ofArguments hargs
  have hlimit : Settings.get? (settingsOf ps) "limit" = some t := (hget "limit").trans ht
  have hmem : ("limit", t) ∈ settingsOf ps := List.mem_reverse.1 (Assoc.mem_of_lookup hlimit)
  obtain ⟨⟨o, value⟩, hp, heq⟩ := List.mem_map.1 hmem
  obtain ⟨hname, rfl⟩ : o.name = "limit" ∧ value = t := by simpa using heq
  have hkind : ∀ o ∈ cypherOptions, o.name = "limit" → o.kind = .whole := by decide
  obtain ⟨ho, -, -, hwhole⟩ := hps _ hp
  exact hwhole (hkind o ho hname)

theorem parameters_eq (s : Settings) : parameters s =
    .ofPresent [("where", (nonempty (s.get? "where")).map .text),
      ("objectIds", (nonempty (s.get? "object-ids")).map .text),
      ("geometry", (nonempty (s.get? "geometry")).map .text), ("inSR", (nonempty (s.get? "in-sr")).map .text),
      ("spatialRel", (nonempty (s.get? "spatial-rel")).map .text),
      ("returnIdsOnly", if s.has "ids-only" then some (.text "true") else none),
      ("returnCountOnly", if s.has "count-only" then some (.text "true") else none),
      ("resultRecordCount", (wholeOption s "limit").map .int)] := by
  simp only [parameters, Json.ofPresent, Assoc.present_cons, Assoc.present_nil, List.append_nil, List.append_assoc]
  refine congrArg Json.object (congrArg₂ (· ++ ·) ?filter (congrArg₂ (· ++ ·) ?objectIds (congrArg₂ (· ++ ·) ?geometry
    (congrArg₂ (· ++ ·) ?inReference (congrArg₂ (· ++ ·) ?relation (congrArg₂ (· ++ ·) ?idsOnly
      (congrArg₂ (· ++ ·) ?countOnly ?limit)))))))
  case limit =>
    rw [Option.map_map]
    rfl
  case idsOnly | countOnly => split <;> rfl
  all_goals
    split
    · next v h => cases hv : v.isEmpty <;> simp [h, nonempty_some, hv]
    · next h =>
      rw [h]
      rfl

theorem parameters_of_asks (h : ∀ name, s.get? name = option? service layer q name) : parameters s = q.settled := by
  have hhas (name : String) : s.has name = (option? service layer q name).isSome := by rw [Settings.has, h]
  have hids : s.has "ids-only" = QueryTexts.isOn q.idsOnly := by
    rw [hhas, show option? service layer q "ids-only" = if QueryTexts.isOn q.idsOnly then some "" else none from rfl]
    cases QueryTexts.isOn q.idsOnly <;> rfl
  have hcount : s.has "count-only" = QueryTexts.isOn q.countOnly := by
    rw [hhas, show option? service layer q "count-only" = if QueryTexts.isOn q.countOnly then some "" else none from rfl]
    cases QueryTexts.isOn q.countOnly <;> rfl
  rw [parameters_eq, wholeOption, hids, hcount]
  simp only [h]
  rfl

end Settings

/-! ## The command -/

/-- How the command ends where a query text was found, or an error. -/
def ended : Except Fault String → Except Defect Outcome
  | .ok text => .ok { exit := 0, output := some text }
  | .error (.failure f) => .ok { exit := 1, error := some ("error: " ++ f.text) }
  | .error (.defect d) => .error d

section Command
variable {remote : Remote} {files : String → FileState} {env : Environment} {path : Option String} {c : Config}
variable {source : Source} {service layer : String} {q : QueryTexts} {args : List String} {w : World}

theorem run_cypher {s : Settings} (h : s.nonempty? "entity" = none) (hservice : s.nonempty? "service" = some service)
    (hlayer : s.get? "layer" = some layer) : ((cypher remote c s).run w).1 =
      ended ((layerQueryText remote c s service layer).run.run w).1 := by
  rw [cypher, h, hservice, hlayer]
  simp only [StateT.run_bind]
  rcases (layerQueryText remote c s service layer).run.run w with ⟨(f | d) | t, w'⟩ <;> rfl

theorem run_layerQueryText {s : Settings} (hsource : c.sources.lookup service = some source)
    (htoken : s.get? "token" = none) : ((layerQueryText remote c s service layer).run.run w).1 =
      (((c.server service source "").schema remote "").run.run w).1 >>= fun schema =>
        schema.queryText c.policy (.text layer) (parameters s) := by
  rw [layerQueryText, hsource, htoken]
  change (((c.server service source "").layer remote (.text layer) "" >>= _).run.run w).1 = _
  rw [Session.run_bind_ofFault, Server.layer, Session.run_bind_ofFault, bind_assoc]
  rfl

/-- What the command that asks for a query prints. -/
theorem run_of_asks (hload : Config.load path env files = .ok c) (hsource : c.sources.lookup service = some source)
    (hservice : service ≠ "") (hasks : Asks path service layer q args) : ((run remote files env args).run w).1 =
      ended ((((c.server service source "").schema remote "").run.run w).1 >>= fun schema =>
        schema.queryText c.policy (.text layer) q.parameters) := by
  have hlimit := isSome_of_asks hasks
  obtain ⟨s, hargs, hget⟩ := hasks
  have hentity : s.nonempty? "entity" = none := by
    rw [Settings.nonempty?, hget]
    rfl
  have hnamed : s.nonempty? "service" = some service := by
    rw [Settings.nonempty?, hget, show option? service layer q "service" = some service from rfl]
    simp [hservice]
  have hrun : ((run remote files env args).run w).1 = ((cypher remote c s).run w).1 := by
    rw [run, hargs]
    dsimp only
    rw [hload]
  have hsettled (schema : Schema) : schema.queryText c.policy (.text layer) q.settled =
      schema.queryText c.policy (.text layer) q.parameters := by
    simp only [Schema.queryText, Cypher.asked_settled _ _ _ hlimit]
  rw [hrun, run_cypher hentity hnamed (hget "layer"), run_layerQueryText hsource (hget "token"), parameters_of_asks hget]
  simp only [hsettled]

theorem find?_servers (h : c.sources.lookup service = some source) :
    c.servers.find? (·.name == service) = some (c.server service source "") := by
  rw [Config.servers]
  generalize c.sources = sources at h
  induction sources with
  | nil => cases h
  | cons p sources ih =>
    obtain ⟨name, first⟩ := p
    by_cases hname : service = name
    · subst hname
      rw [List.lookup_cons_self] at h
      obtain rfl := Option.some.inj h
      rw [List.map_cons, List.find?_cons_of_pos]
      exact beq_self_eq_true service
    · rw [List.lookup_cons, show (service == name) = false by simpa using hname] at h
      rw [List.map_cons, List.find?_cons_of_neg, ih h]
      exact fun heq => hname (beq_iff_eq.1 heq).symm

/-- One query text is printed and sent, or one error ends both and nothing is sent. -/
def Agrees (command : Except Defect Outcome) (x : Exchange) : Prop := ∃ text, command = ended text ∧ x.Tells text

/-- Whatever arguments ask for the query of a layer, what is printed is the text that the service sends for the query,
if both get the same schema. There are such arguments unless the limit is no whole number, which is refused. -/
theorem agrees_of_asks {remote' : Remote} (hload : Config.load path env files = .ok c)
    (hsource : c.sources.lookup service = some source) (hservice : service ≠ "") (hlayer : layer ≠ "")
    (hschema : (((c.server service source "").schema remote "").run.run {}).1 =
      (((c.server service source "").schema remote' "").run.run w).1) :
    (∀ args, Asks path service layer q args → Agrees ((run remote files env args).run {}).1
      ((FeatureRequest.ofQuery service layer q).exchange remote' c.servers w)) ∧
    (Asks none service layer q (commandLine service layer q) ∨
      (∃ t ∈ q.limit, Number.integer? t.toList = none) ∧
        ((run remote files env (commandLine service layer q)).run {}).1 = .ok { exit := 2 }) := by
  constructor
  · intro args hasks
    refine ⟨_, run_of_asks hload hsource hservice hasks, ?_⟩
    rw [hschema, show c.policy = (c.server service source "").policy from rfl]
    refine FeatureRequest.tells_ofQuery (find?_servers hsource) hlayer rfl fun schema hok => ?_
    exact Server.exists_refererHeader (hschema.trans hok)
  · by_cases hlimit : ∀ t ∈ q.limit, (Number.integer? t.toList).isSome
    · exact .inl (asks_commandLine hlimit)
    · obtain ⟨t, ht, hnone⟩ : ∃ t ∈ q.limit, Number.integer? t.toList = none := by simpa using hlimit
      refine .inr ⟨⟨t, ht, hnone⟩, ?_⟩
      rw [run, ofArguments_commandLine ht hnone]
      rfl

end Command

/-- The first five wells of a source. -/
theorem agrees_of_asks_limit :
    let remote : Remote := fun _ _ =>
      .answered { status := 200, body := [13, 0x2A, 1, 103, 0x32, 8, 0x0A, 6, 0x0A, 4, 87, 101, 108, 108] }
    let env : Environment := [("KNOWLEDGE_SOURCES", "\x7b\"g\": \x7b\"url\": \"http://h\"\x7d\x7d")]
    let q : QueryTexts := { limit := some "5" }
    let command := ((run remote (fun _ => .missing) env ["cypher", "--service=g", "--layer=0", "--limit=5"]).run {}).1
    command.toOption = some { exit := 0, output := some "match (n:Well) return n limit 5" } ∧
      ∃ c, Config.load none env (fun _ => .missing) = .ok c ∧
        Agrees command ((FeatureRequest.ofQuery "g" "0" q).exchange remote c.servers {}) := by
  intro remote env q command
  have hload : (Config.load none env fun _ => .missing).toOption.any fun c => (c.sources.lookup "g").isSome := by
    decide +kernel
  obtain ⟨c, hload, hlookup⟩ := exists_of_any_toOption hload
  obtain ⟨source, hsource⟩ := Option.isSome_iff_exists.1 hlookup
  have hlimit : ∀ t ∈ q.limit, (Number.integer? t.toList).isSome := by
    rintro t ⟨⟩
    decide
  obtain ⟨hagrees, -⟩ := agrees_of_asks hload hsource (show "g" ≠ "" by decide) (show "0" ≠ "" by decide)
    (show (((c.server "g" source "").schema remote "").run.run {}).1 = _ from rfl)
  exact ⟨by decide +kernel, c, hload, hagrees _ (asks_commandLine hlimit)⟩

theorem exit_le_of_ended {text : Except Fault String} {o : Outcome} (h : ended text = .ok o) : o.exit ≤ 1 := by
  rcases text with (f | d) | t
  · obtain rfl := Except.ok.inj h
    exact Nat.le_refl 1
  · cases h
  · obtain rfl := Except.ok.inj h
    exact Nat.zero_le 1

/-- A command that is refused prints nothing that a service could tell. -/
theorem not_agrees_of_refused {command : Except Defect Outcome} (h : command.toOption.any (·.exit == 2)) (x : Exchange) :
    ¬Agrees command x := by
  rintro ⟨text, hended, -⟩
  obtain ⟨o, ho, htwo⟩ := exists_of_any_toOption h
  have hle := exit_le_of_ended (hended.symm.trans ho)
  have hexit : o.exit = 2 := beq_iff_eq.1 htwo
  omega

/-- The command refuses a source under the empty name, and a limit that is empty. The service sends a query for both. -/
theorem not_agrees_of_unnamed :
    let remote : Remote := fun _ _ =>
      .answered { status := 200, body := [13, 0x2A, 1, 103, 0x32, 8, 0x0A, 6, 0x0A, 4, 87, 101, 108, 108] }
    let env : Environment := [("KNOWLEDGE_SOURCES",
      "\x7b\"\": \x7b\"url\": \"http://h\"\x7d, \"g\": \x7b\"url\": \"http://h\"\x7d\x7d")]
    let command (args : List String) := ((run remote (fun _ => .missing) env args).run {}).1
    ∃ c, Config.load none env (fun _ => .missing) = .ok c ∧
      let exchange (service : String) (q : QueryTexts) :=
        (FeatureRequest.ofQuery service "0" q).exchange remote c.servers {}
      ((c.sources.lookup "").isSome ∧ queryTexts (exchange "" {}).sent = [some "match (n:Well) return n"] ∧
        ¬Agrees (command ["cypher", "--service=", "--layer=0"]) (exchange "" {})) ∧
      ((c.sources.lookup "g").isSome ∧
        queryTexts (exchange "g" { limit := some "" }).sent = [some "match (n:Well) return n"] ∧
        ¬Agrees (command ["cypher", "--service=g", "--layer=0", "--limit="]) (exchange "g" { limit := some "" })) := by
  intro remote env command
  have hload : (Config.load none env fun _ => .missing).toOption.any fun c =>
      let exchange (service : String) (q : QueryTexts) :=
        (FeatureRequest.ofQuery service "0" q).exchange remote c.servers {}
      decide (((c.sources.lookup "").isSome ∧ queryTexts (exchange "" {}).sent = [some "match (n:Well) return n"]) ∧
        (c.sources.lookup "g").isSome ∧
        queryTexts (exchange "g" { limit := some "" }).sent = [some "match (n:Well) return n"]) := by
    decide +kernel
  obtain ⟨c, hload, hc⟩ := exists_of_any_toOption hload
  obtain ⟨⟨hunnamed, hunnamedSent⟩, hnamed, hnamedSent⟩ := of_decide_eq_true hc
  have hservice : (command ["cypher", "--service=", "--layer=0"]).toOption.any (·.exit == 2) := by decide +kernel
  have hlimit : (command ["cypher", "--service=g", "--layer=0", "--limit="]).toOption.any (·.exit == 2) := by
    decide +kernel
  exact ⟨c, hload, ⟨hunnamed, hunnamedSent, not_agrees_of_refused hservice _⟩,
    hnamed, hnamedSent, not_agrees_of_refused hlimit _⟩

end FeatureGraph.CommandLine
