import FeatureGraph.Proofs.Edit.Assignment
import FeatureGraph.Proofs.Response.PartialFailure
import FeatureGraph.Proofs.Wire.Edits

/-! # What is posted to add an entity

The body is a header and a compressed frame, each with its length in front. From the two the edit is read back: the
transform, the type, and for each property what its assignment stands for. -/
namespace FeatureGraph

open Wire

/-! ## Properties -/

namespace Edit

variable {type : String} {properties : List (String × Assignment)} {q : Option (Quantization Float)} {ps : Properties}

def Holds (q : Option (Quantization Float)) (property : String × Assignment) (m : String × Any) : Prop :=
  m.1 = property.1 ∧ ∃ p, m.2 = .primitive p ∧ Reveals p (property.2.meaning? q)

theorem addEntity_eq_ok {adds : Adds}
    (huuid : ∀ p ∈ properties, p.2.variant = "uuid_value" → ∀ bs, p.2.value = .bytes bs → bs.length = 16)
    (h : addEntity type properties q = .ok adds) :
    ∃ ps, adds = { entities := [(type, [ps])] } ∧ List.Forall₂ (Holds q) properties ps := by
  unfold addEntity at h
  obtain ⟨ps, hps, hadds⟩ := exists_of_bind_eq_ok h
  cases hadds
  refine ⟨ps, rfl, ?_⟩
  have hall := forall₂_of_mapM_eq_ok hps
  clear h hps
  induction hall with
  | nil => exact .nil
  | @cons property m properties ps hm _ ih =>
    rw [List.forall_mem_cons] at huuid
    obtain ⟨v, hv, hvalue⟩ := exists_of_bind_eq_ok hm
    cases hvalue
    exact .cons ⟨rfl, propertyValue_reveals huuid.1 hv⟩ (ih huuid.2)

theorem names_eq_of_holds (h : List.Forall₂ (Holds q) properties ps) : ps.map Prod.fst = properties.map Prod.fst := by
  induction h with
  | nil => rfl
  | cons hm _ ih => rw [List.map_cons, List.map_cons, hm.1, ih]

theorem exists_primitive_of_holds (h : List.Forall₂ (Holds q) properties ps) :
    ∀ m ∈ ps, ∃ p, m.2 = .primitive p ∧ p.InRange := by
  induction h with
  | nil => simp
  | cons hm _ ih =>
    obtain ⟨-, p, hp, hrange, -⟩ := hm
    exact List.forall_mem_cons.2 ⟨⟨p, hp, hrange⟩, ih⟩

theorem exists_mem_of_holds (h : List.Forall₂ (Holds q) properties ps) :
    ∀ property ∈ properties, ∃ m ∈ ps, Holds q property m := by
  induction h with
  | nil => simp
  | cons hm _ ih =>
    refine List.forall_mem_cons.2 ⟨⟨_, List.mem_cons_self, hm⟩, fun property hproperty => ?_⟩
    obtain ⟨m, hmem, hholds⟩ := ih property hproperty
    exact ⟨m, List.mem_cons_of_mem _ hmem, hholds⟩

/-- Assigned properties can be written and read. -/
theorem readable_of_holds (hnames : (properties.map Prod.fst).Nodup) (h : List.Forall₂ (Holds q) properties ps) :
    Properties.Readable (rootLevels - 3) ps := by
  have hprimitive := exists_primitive_of_holds h
  refine ⟨by rwa [names_eq_of_holds h], fun m hm => ?_, ?_⟩
  · obtain ⟨p, hp, hrange⟩ := hprimitive m hm
    rw [hp]
    exact .primitive hrange
  · have hheight : Any.heightMembers ps ≤ 5 := by
      refine Any.heightMembers_le.2 fun m hm => ?_
      obtain ⟨p, hp, -⟩ := hprimitive m hm
      have hlow : p.height ≤ 3 := p.height_le
      rw [hp, Any.height]
      omega
    exact Nat.lt_of_le_of_lt hheight (by decide)

end Edit

/-! ## Bodies -/

namespace EditsBody

variable {compress decompress : List UInt8 → List UInt8} {order : EntryOrder}

/-- Bytes in which a reader finds a header and the objects to add, with nothing left over. -/
def DecodesTo (decompress : List UInt8 → List UInt8) (bytes : List UInt8) (b : EditsBody) : Prop :=
  ∃ header frame next, readFrame bytes 0 = .ok (header, next) ∧ readFrame bytes next = .ok (frame, bytes.length) ∧
    EditsHeader.read? header = some b.header ∧ readEditsFrame (decompress frame) = some b.adds

theorem readFrame_encode {b : EditsBody} (hheader : Framable b.header.encode)
    (hframe : Framable (compress (encodeEditsFrame b.adds order))) :
    readFrame (b.encode compress order) 0 = .ok (b.header.encode, (frame b.header.encode).length) ∧
      readFrame (b.encode compress order) (frame b.header.encode).length =
        .ok (compress (encodeEditsFrame b.adds order), (b.encode compress order).length) := by
  have hfirst := readFrame_frame hheader [] (frame (compress (encodeEditsFrame b.adds order)))
  have hsecond := readFrame_frame hframe (frame b.header.encode) []
  rw [List.append_nil] at hsecond
  exact ⟨hfirst, hsecond⟩

/-- An edit that adds readable objects is read back, in the order in which it was written. -/
theorem decodesTo_encode {q : Option (Quantization Float)} {adds : Adds}
    (hgzip : ∀ bs, decompress (compress bs) = bs) (hframe : Framable (compress (encodeEditsFrame adds order)))
    (hl : (encodeEditsFrame adds order).length < 0x10000000000000000) (hentities : TypesReadable adds.entities)
    (hrelationships : TypesReadable adds.relationships) :
    let header : EditsHeader := { minorVersion := 2, transform := q.map Transform.ofQuantization }
    DecodesTo decompress (encode compress ⟨header, adds⟩ order) ⟨header, adds.arranged order⟩ := by
  intro header
  have hlength : header.encode.length ≤ 44 := EditsHeader.length_encode_le (show 2 < 128 by decide)
  have hframable : Framable header.encode := Nat.lt_of_le_of_lt hlength (by decide)
  obtain ⟨hfirst, hsecond⟩ := readFrame_encode (b := ⟨header, adds⟩) hframable hframe
  have hscale : ∀ t ∈ header.transform, t.scale.isSome := by
    intro t ht
    obtain ⟨q', -, rfl⟩ := Option.map_eq_some_iff.1 ht
    rfl
  have hversion : header.minorVersion < 0x100000000 := show 2 < 0x100000000 by decide
  refine ⟨_, _, _, hfirst, hsecond, ?_, ?_⟩
  · exact EditsHeader.read?_encode hversion hscale (Nat.lt_of_le_of_lt hlength (by decide))
  · rw [hgzip]
    exact readEditsFrame_encodeEditsFrame hentities hrelationships hl

end EditsBody

/-! ## Requests -/

namespace Server

theorem sent_applyEdits (s : Server) (remote : Remote) (adds : Adds) (q : Option (Quantization Float))
    (caller : String) (w : World) : ((s.applyEdits remote adds q caller).run.run w).2.sent =
      w.sent ++ [postRequest (s.editsUrl caller)
        ⟨{ minorVersion := 2, transform := q.map Transform.ofQuantization }, adds⟩] := by
  let r := postRequest (s.editsUrl caller) ⟨{ minorVersion := 2, transform := q.map Transform.ofQuantization }, adds⟩
  have hsend := Session.run_send remote r w
  rw [applyEdits]
  cases hanswer : r.answer (remote w.sent r) with
  | ok a =>
    rw [hanswer] at hsend
    rw [Session.run_bind_of_ok hsend]
    dsimp only
    cases hedits : a.edits s.platform with
    | error d => rfl
    | ok result =>
      obtain ⟨entities, relationships, _ | f⟩ := result <;> rfl
  | error e =>
    rw [hanswer] at hsend
    cases e with
    | failure f =>
      rw [Session.run_bind_of_ok hsend]
      rfl
    | defect d => rw [Session.run_bind_of_error hsend]

theorem sent_addEntity {type : String} {properties : List (String × Edit.Assignment)} {q : Option (Quantization Float)}
    {adds : Adds} (hadds : Edit.addEntity type properties q = .ok adds) (s : Server) (remote : Remote)
    (caller : String) (w : World) : ((s.addEntity remote type properties q caller).run.run w).2.sent =
      w.sent ++ [postRequest (s.editsUrl caller)
        ⟨{ minorVersion := 2, transform := q.map Transform.ofQuantization }, adds⟩] := by
  have hbuild : (Session.ofDefect (Edit.addEntity type properties q)).run.run w = (.ok adds, w) := by
    rw [hadds]
    rfl
  rw [addEntity, Session.run_bind_of_ok hbuild, sent_applyEdits]

/-- The body that is posted to add an entity decodes to the edit, in whatever order the entries of its maps are written:
the transform, and one entity of the type, whose properties have the names that are given and stand for what is assigned
to them. -/
theorem addEntity_decodes {type : String} {properties : List (String × Edit.Assignment)}
    {q : Option (Quantization Float)} {adds : Adds} {compress decompress : List UInt8 → List UInt8} {order : EntryOrder}
    (hadds : Edit.addEntity type properties q = .ok adds) (hnames : (properties.map Prod.fst).Nodup)
    (huuid : ∀ p ∈ properties, p.2.variant = "uuid_value" → ∀ bs, p.2.value = .bytes bs → bs.length = 16)
    (hgzip : ∀ bs, decompress (compress bs) = bs) (hframe : Framable (compress (encodeEditsFrame adds order)))
    (hl : (encodeEditsFrame adds order).length < 0x10000000000000000) (s : Server) (remote : Remote) (caller : String)
    (w : World) :
    ∃ request body transform ps,
      ((s.addEntity remote type properties q caller).run.run w).2.sent = w.sent ++ [request] ∧
      request.body = some body ∧
      EditsBody.DecodesTo decompress (body.encode compress order)
        ⟨{ minorVersion := 2, transform }, { entities := [(type, [ps])], relationships := [] }⟩ ∧
      transform.isSome = q.isSome ∧ transform.bind Transform.quantization? = q ∧
      (ps.map Prod.fst).Perm (properties.map Prod.fst) ∧
      ∀ p ∈ properties, ∃ v x y, (p.1, v) ∈ ps ∧ v.value = .ok x ∧ p.2.meaning? q = some y ∧ x.Matches y := by
  have hsent := sent_addEntity hadds s remote caller w
  obtain ⟨ps, rfl, hholds⟩ := Edit.addEntity_eq_ok huuid hadds
  have hentities : TypesReadable [(type, [ps])] :=
    ⟨by simp, by simpa using Edit.readable_of_holds hnames hholds⟩
  have hdecodes := EditsBody.decodesTo_encode (q := q) hgzip hframe hl hentities ⟨by simp, by simp⟩
  have hempty : order.arrange ([] : List (String × List Properties)) = [] := List.perm_nil.1 (order.perm [])
  refine ⟨_, _, q.map Transform.ofQuantization, order.arrange ps, hsent, rfl, ?_, by simp, ?_, ?_, ?_⟩
  · simpa [Adds.arranged, arrangedTypes, order.arrange_singleton, hempty] using hdecodes
  · cases q with
    | none => rfl
    | some q => exact Transform.quantization?_ofQuantization q
  · rw [← Edit.names_eq_of_holds hholds]
    exact (order.perm ps).map Prod.fst
  · intro property hproperty
    obtain ⟨⟨name, v⟩, hm, rfl, p, rfl, -, y, hy, x, hx, hmatches⟩ := Edit.exists_mem_of_holds hholds property hproperty
    exact ⟨.primitive p, x, y, order.mem_arrange.2 hm, hx, hy, hmatches⟩

/-! ## A point -/

def halfUnits : Quantization Float := ⟨0.5, 0.5, 0, 0⟩

def pointAssignment : Edit.Assignment := ⟨"geometry_value", .object [("x", .int 3), ("y", .text "4")]⟩

def pointAdds : Adds :=
  { entities := [("E", [[("s", .primitive (.geometry { lengths := [1], coords := [6, 8] }))]])] }

def pointFrame : List UInt8 :=
  [10, 29, 10, 27, 10, 1, 69, 18, 22, 10, 20, 10, 18, 10, 1, 115, 18, 13, 10, 11, 82, 9, 18, 7, 10, 1, 1, 18, 2, 12, 16]

def zippedPointFrame : List UInt8 :=
  [31, 139, 8, 0, 0, 0, 0, 0, 2, 3, 227, 146, 229, 146, 230, 98, 116, 21, 18, 227, 18, 225, 18, 226, 98, 44, 22, 226,
    229, 226, 14, 226, 20, 98, 231, 98, 100, 20, 98, 226, 17, 0, 0, 195, 19, 84, 110, 31, 0, 0, 0]

def zipPoint (bs : List UInt8) : List UInt8 := if bs = pointFrame then zippedPointFrame else 0 :: bs

def unzipPoint (bs : List UInt8) : List UInt8 := if bs = zippedPointFrame then pointFrame else bs.tail

theorem unzipPoint_zipPoint (bs : List UInt8) : unzipPoint (zipPoint bs) = bs := by
  unfold zipPoint
  split
  · next h => rw [unzipPoint, if_pos rfl, h]
  · rw [unzipPoint, if_neg (by simp [zippedPointFrame]), List.tail_cons]

theorem encodeEditsFrame_pointAdds : encodeEditsFrame pointAdds = pointFrame := by decide +kernel

theorem variant_pointAssignment : pointAssignment.variant = "geometry_value" := rfl

theorem coordinate_pointAssignment :
    Edit.coordinate "x" pointAssignment.value = .ok 3 ∧ Edit.coordinate "y" pointAssignment.value = .ok 4 := by
  decide +kernel

theorem gridPoint_halfUnits : Edit.gridPoint 3 4 (some halfUnits) = .ok [6, 8] := by decide +kernel

theorem addEntity_pointAssignment :
    Edit.addEntity "E" [("s", pointAssignment)] (some halfUnits) = .ok pointAdds := by
  obtain ⟨hx, hy⟩ := coordinate_pointAssignment
  have hvalue : Edit.pointValue 3 4 (some halfUnits) =
      .ok (.primitive (.geometry { lengths := [1], coords := [6, 8] })) := by
    rw [Edit.pointValue, gridPoint_halfUnits]
    rfl
  have hproperty : Edit.propertyValue (some halfUnits) pointAssignment =
      .ok (.primitive (.geometry { lengths := [1], coords := [6, 8] })) := by
    rw [Edit.propertyValue, if_pos variant_pointAssignment, hx, hy]
    simpa only [bind, Except.bind] using hvalue
  rw [Edit.addEntity, List.mapM_cons, hproperty]
  rfl

theorem meaning?_pointAssignment :
    pointAssignment.meaning? (some halfUnits) = some (.geometry ⟨"esriGeometryTypePoint", [6, 8], [1]⟩) := by
  obtain ⟨hx, hy⟩ := coordinate_pointAssignment
  obtain ⟨position, hposition, hround⟩ := Edit.gridPoint_eq_ok gridPoint_halfUnits
  rw [Edit.Assignment.meaning?, if_pos variant_pointAssignment, hx, hy]
  simp only [Except.toOption, bind, Option.bind_some, hposition, hround]
  rfl

/-- A point on a grid of half units, in a frame that gzip has compressed. -/
theorem addEntity_decodes_point : ∃ request body transform v x,
    ((addEntity (fun _ _ => .failed "ConnectError") { name := "g", url := "http://h" } "E" [("s", pointAssignment)]
      (some halfUnits) "").run.run {}).2.sent = [request] ∧
    request.body = some body ∧
    EditsBody.DecodesTo unzipPoint (body.encode zipPoint)
      ⟨{ minorVersion := 2, transform }, { entities := [("E", [[("s", v)]])], relationships := [] }⟩ ∧
    transform.bind Transform.quantization? = some halfUnits ∧ v.value = .ok x ∧
    x.Matches (.geometry ⟨"esriGeometryTypePoint", [6, 8], [1]⟩) := by
  have hzipped : zipPoint (encodeEditsFrame pointAdds) = zippedPointFrame := by
    rw [encodeEditsFrame_pointAdds, zipPoint, if_pos rfl]
  have hframe : Framable (zipPoint (encodeEditsFrame pointAdds)) := by
    rw [hzipped]
    decide
  have hlength : (encodeEditsFrame pointAdds).length < 0x10000000000000000 := by
    rw [encodeEditsFrame_pointAdds]
    decide
  obtain ⟨request, body, transform, ps, hsent, hbody, hdecodes, -, htransform, hperm, hall⟩ :=
    addEntity_decodes addEntity_pointAssignment (by decide) (by simp [pointAssignment]) unzipPoint_zipPoint hframe
      hlength { name := "g", url := "http://h" } (fun _ _ => .failed "ConnectError") "" {}
  obtain ⟨v, x, y, hv, hx, hy, hmatches⟩ := hall _ List.mem_cons_self
  have hnames : ps.map Prod.fst = ["s"] := List.perm_singleton.1 hperm
  obtain ⟨m, rfl⟩ := List.length_eq_one_iff.1 (by simpa using congrArg List.length hnames)
  obtain rfl := List.mem_singleton.1 hv
  obtain rfl := Option.some.inj (meaning?_pointAssignment.symm.trans hy)
  exact ⟨request, body, transform, v, x, hsent, hbody, hdecodes, htransform, hx, hmatches⟩

/-! ## A conversion -/

/-- Not every value comes back as the same value: a whole number becomes a truth value. -/
theorem addEntity_bool_not_same : ∃ adds v,
    ((addEntity (fun _ _ => .failed "ConnectError") { name := "g", url := "http://h" } "E"
      [("a", ⟨"bool_value", .int 2⟩)] none "").run.run {}).2.sent.map (·.body) =
        [some ⟨{ minorVersion := 2 }, adds⟩] ∧
    readEditsFrame (encodeEditsFrame adds) = some { entities := [("E", [[("a", v)]])], relationships := [] } ∧
    v.value = .ok (.bool true) ∧ (Value.bool true).same (.int 2) = false := by
  have hproperty : Properties.Readable (rootLevels - 3) [("a", .primitive (.bool true))] :=
    ⟨by simp, by simpa using .primitive trivial, by decide⟩
  have hentities : TypesReadable [("E", [[("a", .primitive (.bool true))]])] := ⟨by simp, by simpa using hproperty⟩
  have hlength : (encodeEditsFrame { entities := [("E", [[("a", .primitive (.bool true))]])] }).length <
      0x10000000000000000 := by decide +kernel
  have hread := readEditsFrame_encodeEditsFrame hentities ⟨by simp, by simp⟩ hlength
  exact ⟨_, _, rfl, by simpa [Adds.arranged, arrangedTypes, EntryOrder.byName] using hread, rfl, by decide⟩

end Server

end FeatureGraph
