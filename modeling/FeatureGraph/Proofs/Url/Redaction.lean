import FeatureGraph.Proofs.Service.Schema
import FeatureGraph.Proofs.Url.Percent

/-! # What failures show of a token

An address is shown with stars in place of every token. A token goes last into the address of a request and
is escaped, so that the stars hide all of it and reach nothing before it. -/
namespace FeatureGraph

namespace Url

theorem prefix_tokenMark_append {cs ds : List Char} :
    tokenMark <+: cs ++ '&' :: ds ↔ tokenMark <+: cs := by
  constructor
  · intro h
    rcases List.prefix_or_prefix_of_prefix h (List.prefix_append cs ('&' :: ds)) with h' | h'
    · exact h'
    · obtain ⟨mark, hmark⟩ := h'
      cases mark with
      | nil => exact (List.append_nil cs ▸ hmark) ▸ List.prefix_rfl
      | cons c mark =>
        -- A mark that goes on after `cs` goes on with the separator, which it does not have.
        rw [← hmark, List.prefix_append_right_inj] at h
        obtain rfl : c = '&' := by simpa using (List.cons_prefix_cons.1 h).1
        have hmem : '&' ∈ tokenMark := hmark ▸ by simp
        exact absurd hmem (by decide)
  · exact fun h => h.trans (List.prefix_append _ _)

/-- A token ends at the separator. -/
theorem redact_append (cs ds : List Char) : redact (cs ++ '&' :: ds) = redact cs ++ '&' :: redact ds := by
  induction cs using redact.induct with
  | case1 =>
    have hmark : tokenMark.isPrefixOf ('&' :: ds) = false := rfl
    simp [redact, hmark]
  | case2 c r h ih =>
    have hprefix : tokenMark <+: c :: r := List.isPrefixOf_iff_prefix.1 h
    have hlength : 5 ≤ r.length := Nat.le_of_succ_le_succ hprefix.length_le
    have hmark : tokenMark.isPrefixOf (c :: (r ++ '&' :: ds)) = true :=
      List.isPrefixOf_iff_prefix.2 (prefix_tokenMark_append.2 hprefix)
    have hrest : ((r ++ '&' :: ds).drop 5).dropWhile (· ≠ '&') =
        (r.drop 5).dropWhile (· ≠ '&') ++ '&' :: ds := by
      rw [List.drop_append_of_le_length hlength, List.dropWhile_append]
      split <;> simp_all
    rw [List.cons_append, redact, if_pos hmark, hrest, ih, redact, if_pos h]
    simp
  | case3 c r h ih =>
    have hmark : ¬ tokenMark.isPrefixOf (c :: (r ++ '&' :: ds)) = true := by
      rw [List.isPrefixOf_iff_prefix] at h ⊢
      exact fun h' => h (prefix_tokenMark_append.1 h')
    rw [List.cons_append, redact, if_neg hmark, ih, redact, if_neg h, List.cons_append]

/-- All of a token is hidden that has no separator. -/
theorem redact_token {token : List Char} (h : '&' ∉ token) : redact (tokenMark ++ token) = "token=***".toList := by
  have hall : ∀ c ∈ token, decide (c ≠ '&') = true := fun c hc => decide_eq_true fun heq => h (heq ▸ hc)
  have hrest : token.dropWhile (· ≠ '&') = [] := by
    rw [← List.append_nil token, List.dropWhile_append_of_pos hall, List.dropWhile_nil]
  change redact ('t' :: 'o' :: 'k' :: 'e' :: 'n' :: '=' :: token) = _
  have hmark : tokenMark.isPrefixOf ('t' :: 'o' :: 'k' :: 'e' :: 'n' :: '=' :: token) = true := rfl
  rw [redact, if_pos hmark]
  change tokenMark ++ "***".toList ++ redact (token.dropWhile (· ≠ '&')) = _
  rw [hrest, redact]
  rfl

end Url

namespace Server

variable {s : Server}

/-- An address up to its token. -/
def beforeToken (s : Server) (path : String) (blank : Url.Blank) (ps : List (String × String)) : List Char :=
  s.url.toList ++ path.toList ++ '?' :: Url.query blank (ps ++ [("f", "pbf")])

theorem toList_urlOf (path : String) (blank : Url.Blank) (ps : List (String × String)) (caller : String) :
    (s.urlOf path blank ps caller).toList =
      s.beforeToken path blank ps ++ '&' :: (Url.tokenMark ++ Url.escape blank (s.tokenFor caller)) := by
  have hquery : Url.query blank (ps ++ [("f", "pbf"), ("token", s.tokenFor caller)]) =
      Url.query blank (ps ++ [("f", "pbf")]) ++
        '&' :: (Url.escape blank "token" ++ '=' :: Url.escape blank (s.tokenFor caller)) := by
    rw [← Url.query_concat (by simp), List.append_assoc]
    rfl
  have hname : Url.escape blank "token" ++ ['='] = Url.tokenMark := by cases blank <;> decide
  have hmark : "?".toList = ['?'] := rfl
  rw [urlOf, hquery, beforeToken, ← hname]
  simp only [String.toList_append, String.toList_ofList, hmark, List.append_assoc, List.cons_append, List.nil_append]

/-- The address of a request is shown with stars for its token, whatever the token is. -/
theorem redact_urlOf (path : String) (blank : Url.Blank) (ps : List (String × String)) (caller : String) :
    Url.redact (s.urlOf path blank ps caller).toList =
      Url.redact (s.beforeToken path blank ps) ++ "&token=***".toList := by
  rw [toList_urlOf, Url.redact_append, Url.redact_token (Url.notMem_escape (by decide) _)]
  rfl

end Server

/-- What becomes of a request shows of its address what is left when its token is hidden. -/
theorem Request.answer_congr (r r' : Request) (hmethod : r.method = r'.method)
    (hurl : Url.redact r.url.toList = Url.redact r'.url.toList) (reply : Reply) :
    r.answer reply = r'.answer reply := by
  have hshown : r.shownUrl = r'.shownUrl := by rw [shownUrl, shownUrl, hurl]
  unfold answer
  rw [hmethod, hshown]

namespace Server

theorem fetch_congr {s s' : Server} {url url' : String} (hreferer : s.referer = s'.referer)
    (hurl : Url.redact url.toList = Url.redact url'.toList) (reply : Reply) (w w' : World) :
    ((s.fetch (fun _ _ => reply) url).run.run w).1 = ((s'.fetch (fun _ _ => reply) url').run.run w').1 := by
  have hheader : s.refererHeader = s'.refererHeader := by rw [refererHeader, refererHeader, hreferer]
  cases h : s'.refererHeader with
  | error d =>
    have hget {s : Server} {url : String} {w : World} (h : s.refererHeader = .error d) :
        (Session.ofDefect (s.getRequest url)).run.run w = (.error (.defect d), w) := by
      rw [getRequest, h]
      rfl
    rw [fetch, fetch, Session.run_bind_of_error (hget (hheader.trans h)), Session.run_bind_of_error (hget h)]
  | ok referer =>
    rw [run_fetch (hheader.trans h), run_fetch h]
    exact Request.answer_congr _ _ (by rfl) hurl reply

theorem send_congr {url url' : String} (hurl : Url.redact url.toList = Url.redact url'.toList) (body : EditsBody)
    (reply : Reply) (w w' : World) :
    ((Session.send (fun _ _ => reply) (postRequest url body)).run.run w).1 =
      ((Session.send (fun _ _ => reply) (postRequest url' body)).run.run w').1 := by
  rw [Session.run_send, Session.run_send,
    Request.answer_congr (postRequest url body) (postRequest url' body) rfl hurl]

/-- Servers that differ in their tokens show the same addresses, and the same failures of requests that are
replied to in the same way. -/
theorem failures_conceal_token (s : Server) (token token' caller caller' cypher : String) (body : EditsBody)
    (reply : Reply) (w w' : World) :
    let a : Server := { s with token }
    let b : Server := { s with token := token' }
    let remote : Remote := fun _ _ => reply
    (Url.redact (a.modelUrl caller).toList = Url.redact (b.modelUrl caller').toList ∧
      Url.redact (a.queryUrl cypher caller).toList = Url.redact (b.queryUrl cypher caller').toList ∧
      Url.redact (a.editsUrl caller).toList = Url.redact (b.editsUrl caller').toList) ∧
    ((a.fetch remote (a.modelUrl caller)).run.run w).1 = ((b.fetch remote (b.modelUrl caller')).run.run w').1 ∧
    ((a.fetch remote (a.queryUrl cypher caller)).run.run w).1 =
      ((b.fetch remote (b.queryUrl cypher caller')).run.run w').1 ∧
    ((Session.send remote (postRequest (a.editsUrl caller) body)).run.run w).1 =
      ((Session.send remote (postRequest (b.editsUrl caller') body)).run.run w').1 := by
  intro a b remote
  have hshown (path : String) (blank : Url.Blank) (ps : List (String × String)) :
      Url.redact (a.urlOf path blank ps caller).toList = Url.redact (b.urlOf path blank ps caller').toList := by
    rw [redact_urlOf, redact_urlOf]
    rfl
  have hmodel : Url.redact (a.modelUrl caller).toList = Url.redact (b.modelUrl caller').toList := hshown _ _ _
  have hquery : Url.redact (a.queryUrl cypher caller).toList = Url.redact (b.queryUrl cypher caller').toList :=
    hshown _ _ _
  have hedits : Url.redact (a.editsUrl caller).toList = Url.redact (b.editsUrl caller').toList := hshown _ _ _
  refine ⟨⟨hmodel, hquery, hedits⟩, ?_, ?_, ?_⟩
  · exact fetch_congr (by rfl) hmodel reply w w'
  · exact fetch_congr (by rfl) hquery reply w w'
  · exact send_congr hedits body reply w w'

end Server
end FeatureGraph
