import BlockAudit.Audit
import BlockAudit.Proofs.RoundTrip

/-!
# Runs on composed responses

A bundle is audited as it is, or by way of the response that it is composed into. When the response is
parsed back to the bundle, both runs check and fix the same bundle on the same input. Their results are
the same but for the times in the reports, at which nothing else looks.
-/

namespace BlockAudit

namespace Response

variable {b : Bundle} {stripFences : Bool}

lemma text_toDraft (b : Bundle) : b.toDraft.text = b.text := by
  funext file
  cases file <;> rfl

lemma draft_of_parse {response : Text} (h : parse stripFences response = .ok b) :
    ∃ d, draft stripFences response = .ok d ∧ d.assemble = .ok b := bind_eq_ok_iff.1 h

/-- A bundle is parsed back when its metadata are and its sources survive their sections. -/
lemma parse_compose_of_survives (hmetadata : parseMetadata b.metadataText = .ok b.metadata)
    (h : ∀ file source, b.source? file = some source → Section.Survives stripFences source) :
    parse stripFences (compose b) = .ok b := by
  have hbody := (forall_body_compose_iff b stripFences).2 ((survives_sources_iff b stripFences).2 h)
  have hdraft : draft stripFences (compose b) = .ok b.toDraft := by
    rw [draft_eq_ok_iff, text_toDraft]
    exact hbody
  rw [parse, hdraft]
  exact assemble_eq_ok_iff.2 ⟨hmetadata, rfl⟩

end Response

namespace Audit

/-- The results of two runs are the same but for the times of their reports. -/
inductive Agree : Except Error Outcome → Except Error Outcome → Prop
  | error (e : Error) : Agree (.error e) (.error e)
  | ok {o o' : Outcome} (hbundle : o.bundle = o'.bundle)
      (hreport : { o.report with generatedAt := o'.report.generatedAt } = o'.report) :
      Agree (.ok o) (.ok o')

lemma run_of_parse {a : Audit} {b : Bundle} {response : Text}
    (h : Response.parse a.stripFences response = .ok b) (now : Timestamp) :
    (a.run now response).result = (a.check now b response).result := by
  obtain ⟨d, hdraft, hassemble⟩ := Response.draft_of_parse h
  rw [run, hdraft]
  dsimp only
  rw [hassemble]
  rfl

/-- The time of a run goes into its report and decides nothing. -/
lemma agree_check (a : Audit) (now now' : Timestamp) (b : Bundle) (input : Text) :
    Agree (a.check now b input).result (a.check now' b input).result := by
  have hpassed : (a.outcome now b input).report.passed = (a.outcome now' b input).report.passed := rfl
  have hremaining :
      (a.outcome now b input).report.remaining = (a.outcome now' b input).report.remaining := rfl
  rw [check, check, judge, judge, hpassed, hremaining]
  split_ifs
  · exact .error _
  · exact .ok rfl rfl

/-- An audit of the response that a bundle is composed into agrees with the audit of the bundle when the
metadata are read as what they were and each source is trimmed, has no line that is a sentinel, and
does not begin with a fence that would be stripped: the response is parsed back to the bundle, and both
runs end with the same error, or with the same bundle and the same report up to its time. -/
theorem run_compose_agrees_runBundle (a : Audit) (b : Bundle)
    (hmetadata : parseMetadata b.metadataText = .ok b.metadata)
    (hsources : ∀ file source, b.source? file = some source →
      Text.trim source = source ∧
      (∀ line ∈ Text.splitOn '\n' source, Section.Line.ofText line = .plain) ∧
      (a.stripFences = true → Text.startsWith Section.fence source = false)) :
    Response.parse a.stripFences (Response.compose b) = .ok b ∧
      ∀ now now', Agree (a.run now (Response.compose b)).result (a.runBundle now' b).result := by
  have hsurvives : ∀ file source, b.source? file = some source →
      Section.Survives a.stripFences source := by
    intro file source hsource
    obtain ⟨htrimmed, hplain, hunfenced⟩ := hsources file source hsource
    exact ⟨htrimmed, hplain, hunfenced⟩
  have hparse : Response.parse a.stripFences (Response.compose b) = .ok b :=
    Response.parse_compose_of_survives hmetadata hsurvives
  refine ⟨hparse, fun now now' => ?_⟩
  rw [run_of_parse hparse, runBundle]
  exact agree_check a now now' b (Response.compose b)

/-- A bundle with little in it. -/
def sparse : Bundle where
  config := "<?php"
  registration := []
  render := "<?php\nnamespace A;"
  editorScript := "let x = 1;\n\nlet y = 2;"
  sharedScript := []
  style := ".cm-a {}"
  metadata := [("name", .string "cm/a"), ("keywords", .array [.string "cm"])]

/-- The two audits of the bundle under the strict policy. -/
theorem run_compose_agrees_runBundle_sparse :
    let a : Audit := { policy := .strict }
    Response.parse a.stripFences (Response.compose sparse) = .ok sparse ∧
      ∀ now now', Agree (a.run now (Response.compose sparse)).result
        (a.runBundle now' sparse).result := by
  intro a
  have hsources : ∀ file ∈ BlockFile.all, ∀ source ∈ sparse.source? file,
      Text.trim source = source ∧
      (∀ line ∈ Text.splitOn '\n' source, Section.Line.ofText line = .plain) ∧
      (a.stripFences = true → Text.startsWith Section.fence source = false) := by decide +kernel
  exact run_compose_agrees_runBundle a sparse (by decide +kernel) fun file =>
    hsources file (BlockFile.mem_all file)

end Audit

end BlockAudit
