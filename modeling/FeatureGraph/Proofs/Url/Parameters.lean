import FeatureGraph.Proofs.Url.Percent
import FeatureGraph.Service.Server
import Mathlib.Data.List.Forall2

/-! # The parameters of a query's address

A text that goes into the address of a query stays in the parameter that it is the value of, whatever marks it has, so
that neither a filter nor a token adds a parameter or changes another one. -/
namespace FeatureGraph

namespace Url

/-- A part of a query that is a name and a value, both of them text in UTF-8 after the percent signs are resolved. -/
def Holds (part : List Char) (p : String × String) : Prop :=
  ∃ name value, part = name ++ '=' :: value ∧ '=' ∉ name ∧ '=' ∉ value ∧
    Text.Utf8.decode (unescape name) = some p.1 ∧ Text.Utf8.decode (unescape value) = some p.2

/-- Where blanks are escaped there is no plus sign to stand for one. -/
theorem map_spaced_escape (s : String) : (escape .percent s).map spaced = escape .percent s := by
  have hall : ∀ n < 256, (escapeByte .percent (.ofNat n)).map spaced = escapeByte .percent (.ofNat n) := by
    decide +kernel
  have hbyte (b : UInt8) : (escapeByte .percent b).map spaced = escapeByte .percent b := by
    have hb := hall b.toNat b.toNat_lt
    rwa [UInt8.ofNat_toNat] at hb
  rw [escape, List.map_flatMap]
  exact congrArg (List.flatMap · _) (funext hbyte)

theorem decode_unescape_escape (s : String) : Text.Utf8.decode (unescape (escape .percent s)) = some s := by
  have hbytes : unescape ((escape .percent s).map spaced) = Text.Utf8.encode s := unescape_escape _
  rw [map_spaced_escape] at hbytes
  rw [hbytes, Text.Utf8.decode_encode]

theorem holds_escape (p : String × String) : Holds (escape .percent p.1 ++ '=' :: escape .percent p.2) p :=
  ⟨_, _, rfl, notMem_escape (by decide) p.1, notMem_escape (by decide) p.2, decode_unescape_escape p.1,
    decode_unescape_escape p.2⟩

/-- The parts of a query hold the names and values that it was made of, one each and in their order. -/
theorem forall₂_holds_query {ps : List (String × String)} (hps : ps ≠ []) :
    List.Forall₂ Holds (Text.splitAt '&' (query .percent ps)) ps := by
  rw [splitAt_query hps, List.forall₂_map_left_iff]
  exact List.forall₂_same.2 fun p _ => holds_escape p

end Url

namespace Server

/-- Of the address of a query only three parameters follow the question mark: the query text, the format and the token. -/
theorem queryUrl_parameters (s : Server) (hurl : '?' ∉ s.url.toList) (cypher caller : String) :
    let parameters := [("openCypherQuery", cypher), ("f", "pbf"), ("token", s.tokenFor caller)]
    ∃ place query, (s.queryUrl cypher caller).toList = place ++ '?' :: query ∧ '?' ∉ place ∧ '?' ∉ query ∧
      '#' ∉ query ∧ List.Forall₂ Url.Holds (Text.splitAt '&' query) parameters ∧ Url.pairs query = parameters := by
  intro parameters
  have htext : (s.queryUrl cypher caller).toList =
      s.url.toList ++ "/graph/query".toList ++ '?' :: Url.query .percent parameters := by
    simp [queryUrl, urlOf, parameters]
  have hplace : '?' ∉ s.url.toList ++ "/graph/query".toList := by
    rw [List.mem_append, not_or]
    exact ⟨hurl, by decide⟩
  refine ⟨_, _, htext, hplace, ?_, ?_, Url.forall₂_holds_query (by simp [parameters]), Url.pairs_query _ _⟩
  · exact Url.notMem_query (by decide) (by decide) _
  · exact Url.notMem_query (by decide) (by decide) _

/-- A filter and a token that spell parameters of their own. -/
theorem queryUrl_parameters_spelled :
    let s : Server := { name := "g", url := "https://h/kg", token := "é+%26#&f=json" }
    let cypher := "match (n) where n.a = '?&token=x%' return n"
    let parameters := [("openCypherQuery", cypher), ("f", "pbf"), ("token", s.token)]
    '?' ∉ s.url.toList ∧
      ∃ place query, (s.queryUrl cypher "").toList = place ++ '?' :: query ∧ '?' ∉ place ∧ '?' ∉ query ∧
        '#' ∉ query ∧ List.Forall₂ Url.Holds (Text.splitAt '&' query) parameters ∧ Url.pairs query = parameters := by
  intro s cypher parameters
  have hurl : '?' ∉ s.url.toList := by decide
  exact ⟨hurl, queryUrl_parameters s hurl cypher ""⟩

end Server
end FeatureGraph
