import BlockAudit.Proofs.RoundTrip
import BlockAudit.Proofs.SectionSplit
import BlockAudit.Audit

/-!
# How a run ends

An audit of a response ends in one of five ways: a section is missing, the metadata are no JSON or not an
object, a strict audit is left with violations, or the run succeeds. The trace says how far it came. It is
the same under both policies, which differ in the last step only.
-/

namespace BlockAudit

namespace Response

variable {stripFences : Bool} {response : Text}

/-- The text of the first section of a file; empty when there is none. -/
def textOf (stripFences : Bool) (response : Text) (file : BlockFile) : Text :=
  let body := (Section.extract? response file).getD []
  if stripFences then Section.stripFence body else body

/-- The response has no section for a file. -/
def lacks (response : Text) (file : BlockFile) : Bool :=
  (Section.splitAll response).all fun s => s.1 ≠ file

/-- The first file in canonical order that the response has no section for. -/
def firstMissing? (response : Text) : Option BlockFile :=
  BlockFile.all.find? (lacks response)

lemma body_eq_ite (stripFences : Bool) (response : Text) (file : BlockFile) :
    body stripFences response file =
      if lacks response file then .error (.sectionMissing file)
      else .ok (textOf stripFences response file) := by
  have hsections : lacks response file = true ↔ Section.extract? response file = none := by
    rw [(Section.extract?_agrees_splitAll response file).1, lacks, List.all_eq_true]
    simp
  rw [body, Section.extract?_trim, textOf]
  cases hbody : Section.extract? response file with
  | none => rw [if_pos (hsections.2 hbody)]
  | some body =>
    have hthere : ¬ lacks response file = true := by
      rw [hsections, hbody]
      simp
    rw [if_neg hthere]
    rfl

/-- The draft of a response that lacks no section. -/
def fullDraft (stripFences : Bool) (response : Text) : Draft where
  metadata := textOf stripFences response .metadata
  config := textOf stripFences response .config
  registration := textOf stripFences response .registration
  render := textOf stripFences response .render
  editorScript := textOf stripFences response .editorScript
  sharedScript := textOf stripFences response .sharedScript
  style := textOf stripFences response .style

lemma draft_eq (stripFences : Bool) (response : Text) :
    draft stripFences response = match firstMissing? response with
      | some file => .error (.sectionMissing file)
      | none => .ok (fullDraft stripFences response) := by
  have hbind {α : Type} (file : BlockFile) (f : Text → Except Error α) :
      (body stripFences response file >>= f) =
        if lacks response file then .error (.sectionMissing file)
        else f (textOf stripFences response file) := by
    rw [body_eq_ite]
    split <;> rfl
  simp only [draft, hbind, firstMissing?, BlockFile.all, List.find?_cons, List.find?_nil]
  split_ifs <;> simp only [*]
  rfl

lemma parse_eq_ok_iff {b : Bundle} :
    parse stripFences response = .ok b ↔
      firstMissing? response = none ∧ (fullDraft stripFences response).assemble = .ok b := by
  rw [parse, bind_eq_ok_iff, draft_eq]
  cases firstMissing? response with
  | none => simp
  | some file => simp

end Response

/-! ### Traces -/

/-- The stage that a run enters with an event. -/
def Event.stage? : Event → Option Stage
  | .entered stage => some stage
  | _ => none

/-- The stages that a run enters, in order. -/
def Run.stages (run : Run) : List Stage := run.events.filterMap Event.stage?

/-- The events of a run after it enters one stage and before it enters another. -/
def Run.between (first last : Stage) (run : Run) : List Event :=
  ((run.events.dropWhile (· ≠ .entered first)).tail).takeWhile (· ≠ .entered last)

lemma between_eq {first last : Stage} {run : Run} {before inside after : List Event}
    (hrun : run.events = before ++ .entered first :: (inside ++ .entered last :: after))
    (hbefore : .entered first ∉ before) (hinside : .entered last ∉ inside) :
    run.between first last = inside := by
  have hskipped : ∀ e ∈ before, decide (e ≠ .entered first) = true :=
    fun e he => decide_eq_true fun heq => hbefore (heq ▸ he)
  have hkept : ∀ e ∈ inside, decide (e ≠ .entered last) = true :=
    fun e he => decide_eq_true fun heq => hinside (heq ▸ he)
  rw [Run.between, hrun, List.dropWhile_append_of_pos hskipped, List.dropWhile_cons_of_neg (by simp),
    List.tail_cons, List.takeWhile_append_of_pos hkept, List.takeWhile_cons_of_neg (by simp),
    List.append_nil]

lemma stage?_of_mem_ofPass {pass : Pass} {violations : List Violation} {e : Event}
    (h : e ∈ Event.ofPass pass violations) : e.stage? = none := by
  unfold Event.ofPass at h
  split at h
  · rw [List.mem_singleton.1 h]
    rfl
  · obtain ⟨v, -, rfl⟩ := List.mem_map.1 h
    rfl

lemma stage?_of_mem_ofFix {applied : List AppliedFix} {e : Event} (h : e ∈ Event.ofFix applied) :
    e.stage? = none := by
  unfold Event.ofFix at h
  split at h
  · exact absurd h List.not_mem_nil
  · obtain hstep | hcount := List.mem_append.1 h
    · obtain ⟨fix, -, rfl⟩ := List.mem_map.1 hstep
      rfl
    · rw [List.mem_singleton.1 hcount]
      rfl

lemma entered_notMem_ofPass (stage : Stage) (pass : Pass) (violations : List Violation) :
    .entered stage ∉ Event.ofPass pass violations :=
  fun h => Option.some_ne_none stage (stage?_of_mem_ofPass h)

lemma entered_notMem_ofFix (stage : Stage) (applied : List AppliedFix) :
    .entered stage ∉ Event.ofFix applied :=
  fun h => Option.some_ne_none stage (stage?_of_mem_ofFix h)

lemma stages_ofPass (pass : Pass) (violations : List Violation) :
    (Event.ofPass pass violations).filterMap Event.stage? = [] :=
  List.filterMap_eq_nil_iff.2 fun _ => stage?_of_mem_ofPass

lemma stages_ofFix (applied : List AppliedFix) :
    (Event.ofFix applied).filterMap Event.stage? = [] :=
  List.filterMap_eq_nil_iff.2 fun _ => stage?_of_mem_ofFix

lemma ofPass_logged (pass : Pass) (violations : List Violation) :
    (Event.ofPass pass violations).map (fun e => (e.level, e.message)) =
      if violations = [] then [(.info, ("no SSOT violations" : Text))]
      else violations.map fun v => (.warn, v.message) := by
  cases violations with
  | nil => rfl
  | cons v violations =>
    rw [if_neg (List.cons_ne_nil v violations)]
    exact List.map_map

namespace Audit

/-- The events of a run that extracts all sections: a warning for each file with more than one section,
and the first stage. -/
def opening (response : Text) : List Event :=
  (Section.repeated response).map .repeatedSection ++ [.entered .extracted]

/-- The events of a run that reads a bundle. -/
def trace (a : Audit) (response : Text) (b : Bundle) : List Event :=
  opening response ++ .entered .parsed ::
    (Event.ofPass .validate (b.violations a.conventions) ++ .entered .validated ::
      (Event.ofFix (a.fixed b).applied ++ .entered .fixed ::
        (Event.ofPass .revalidate ((a.fixed b).bundle.violations a.conventions) ++
          [.entered .revalidated, .entered .done])))

/-- The five ways in which an audit of a response ends, each with its condition and its events. -/
inductive Ends (a : Audit) (now : Timestamp) (response : Text) : Run → Prop
  /-- A file has no section. Of several such files the first in canonical order is reported. -/
  | sectionMissing {file : BlockFile} (hfirst : Response.firstMissing? response = some file) :
      Ends a now response ⟨.error (.sectionMissing file), []⟩
  /-- The first section of the metadata is no JSON. -/
  | metadataMalformed (hsections : Response.firstMissing? response = none)
      (hjson : Json.parse? (Response.textOf a.stripFences response .metadata) = none) :
      Ends a now response ⟨.error .metadataMalformed, opening response⟩
  /-- The first section of the metadata is JSON of another kind than an object. -/
  | metadataNotObject {value : Json} (hsections : Response.firstMissing? response = none)
      (hjson : Json.parse? (Response.textOf a.stripFences response .metadata) = some value)
      (hkind : ∀ fields, value ≠ .object fields) :
      Ends a now response ⟨.error (.metadataNotObject value.kindInWords), opening response⟩
  /-- Violations are left, and the policy is strict. -/
  | notCompliant {b : Bundle} (hparse : Response.parse a.stripFences response = .ok b)
      (hpolicy : a.policy = .strict)
      (hleft : (a.fixed b).bundle.violations a.conventions ≠ []) :
      Ends a now response
        ⟨.error (.notCompliant
          (((a.fixed b).bundle.violations a.conventions).map Violation.message)),
          a.trace response b⟩
  /-- No violation is left, or the policy only warns. -/
  | succeeded {b : Bundle} (hparse : Response.parse a.stripFences response = .ok b)
      (hpassed : a.policy = .strict → (a.fixed b).bundle.violations a.conventions = []) :
      Ends a now response ⟨.ok (a.outcome now b response), a.trace response b⟩

variable {a : Audit} {now : Timestamp} {response : Text}

lemma run_of_missing {file : BlockFile} (h : Response.firstMissing? response = some file) :
    a.run now response = ⟨.error (.sectionMissing file), []⟩ := by
  rw [run, Response.draft_eq, h]

lemma run_of_unread {e : Error} (hsections : Response.firstMissing? response = none)
    (h : parseMetadata (Response.textOf a.stripFences response .metadata) = .error e) :
    a.run now response = ⟨.error e, opening response⟩ := by
  have hassemble : (Response.fullDraft a.stripFences response).assemble = .error e := by
    rw [Draft.assemble, Response.fullDraft, h]
    rfl
  rw [run, Response.draft_eq, hsections]
  dsimp only
  rw [hassemble]
  rfl

lemma run_of_read {b : Bundle} (h : Response.parse a.stripFences response = .ok b) :
    a.run now response = ⟨a.judge (a.outcome now b response), a.trace response b⟩ := by
  obtain ⟨hsections, hassemble⟩ := Response.parse_eq_ok_iff.1 h
  rw [run, Response.draft_eq, hsections]
  dsimp only
  rw [hassemble]
  simp only [check, Run.after, checkEvents, trace, opening, List.append_assoc, List.cons_append,
    List.nil_append]

lemma judge_outcome (b : Bundle) :
    a.judge (a.outcome now b response) =
      if a.policy = .strict ∧ (a.fixed b).bundle.violations a.conventions ≠ [] then
        .error (.notCompliant
          (((a.fixed b).bundle.violations a.conventions).map Violation.message))
      else .ok (a.outcome now b response) := by
  have hleft : (!(a.outcome now b response).report.passed) = true ↔
      (a.fixed b).bundle.violations a.conventions ≠ [] := by
    rw [Bool.not_eq_true', Report.passed, List.isEmpty_eq_false_iff]
    rfl
  unfold judge
  simp only [hleft]
  rfl

lemma parseMetadata_eq_error_iff {text : Text} {e : Error} :
    parseMetadata text = .error e ↔
      (Json.parse? text = none ∧ e = .metadataMalformed) ∨
        ∃ value, Json.parse? text = some value ∧ (∀ fields, value ≠ .object fields) ∧
          e = .metadataNotObject value.kindInWords := by
  unfold parseMetadata
  cases hjson : Json.parse? text with
  | none => simp [eq_comm]
  | some value => cases value <;> simp [eq_comm]

lemma Ends.eq_run {r : Run} (h : a.Ends now response r) : a.run now response = r := by
  cases h with
  | sectionMissing hfirst => exact run_of_missing hfirst
  | metadataMalformed hsections hjson =>
    exact run_of_unread hsections (parseMetadata_eq_error_iff.2 (.inl ⟨hjson, rfl⟩))
  | metadataNotObject hsections hjson hkind =>
    exact run_of_unread hsections (parseMetadata_eq_error_iff.2 (.inr ⟨_, hjson, hkind, rfl⟩))
  | notCompliant hparse hpolicy hleft =>
    rw [run_of_read hparse, judge_outcome, if_pos ⟨hpolicy, hleft⟩]
  | succeeded hparse hpassed =>
    rw [run_of_read hparse, judge_outcome, if_neg fun h => h.2 (hpassed h.1)]

lemma ends_run (a : Audit) (now : Timestamp) (response : Text) :
    a.Ends now response (a.run now response) := by
  cases hsections : Response.firstMissing? response with
  | some file =>
    rw [run_of_missing hsections]
    exact .sectionMissing hsections
  | none =>
    cases hassemble : (Response.fullDraft a.stripFences response).assemble with
    | ok b =>
      have hparse := Response.parse_eq_ok_iff.2 ⟨hsections, hassemble⟩
      rw [run_of_read hparse, judge_outcome]
      split_ifs with hstrict
      · exact .notCompliant hparse hstrict.1 hstrict.2
      · exact .succeeded hparse fun hpolicy => by_contra fun hleft => hstrict ⟨hpolicy, hleft⟩
    | error e =>
      cases hparse : parseMetadata (Response.textOf a.stripFences response .metadata) with
      | ok metadata =>
        rw [Draft.assemble, Response.fullDraft, hparse] at hassemble
        exact absurd hassemble (by simp [bind, Except.bind, pure, Except.pure])
      | error e =>
        rw [run_of_unread hsections hparse]
        obtain ⟨hjson, rfl⟩ | ⟨value, hjson, hkind, rfl⟩ := parseMetadata_eq_error_iff.1 hparse
        · exact .metadataMalformed hsections hjson
        · exact .metadataNotObject hsections hjson hkind

/-! ### Stages and findings -/

lemma stages_opening (response : Text) :
    (opening response).filterMap Event.stage? = [.extracted] := by
  have hwarnings : ((Section.repeated response).map Event.repeatedSection).filterMap Event.stage? =
      [] := by
    rw [List.filterMap_map]
    exact List.filterMap_eq_nil_iff.2 fun _ _ => rfl
  rw [opening, List.filterMap_append, hwarnings]
  rfl

lemma stages_trace (a : Audit) (response : Text) (b : Bundle) :
    (a.trace response b).filterMap Event.stage? = Stage.all := by
  have hentered (stage : Stage) : (Event.entered stage).stage? = some stage := rfl
  simp only [trace, List.filterMap_append, stages_opening, stages_ofPass, stages_ofFix,
    List.filterMap_cons_some (hentered _), List.filterMap_nil, List.nil_append]
  rfl

lemma entered_notMem_opening {stage : Stage} (h : stage ≠ .extracted) (response : Text) :
    .entered stage ∉ opening response := by
  intro hmem
  have hstage : stage ∈ (opening response).filterMap Event.stage? :=
    List.mem_filterMap.2 ⟨_, hmem, rfl⟩
  rw [stages_opening] at hstage
  exact h (List.mem_singleton.1 hstage)

lemma between_parsed_validated {run : Run} {b : Bundle} (h : run.events = a.trace response b) :
    run.between .parsed .validated = Event.ofPass .validate (b.violations a.conventions) :=
  between_eq h (entered_notMem_opening (by decide) response) (entered_notMem_ofPass _ _ _)

lemma between_fixed_revalidated {run : Run} {b : Bundle} (h : run.events = a.trace response b) :
    run.between .fixed .revalidated =
      Event.ofPass .revalidate ((a.fixed b).bundle.violations a.conventions) := by
  have hevents : run.events =
      (opening response ++ .entered .parsed ::
        (Event.ofPass .validate (b.violations a.conventions) ++ .entered .validated ::
          Event.ofFix (a.fixed b).applied)) ++ .entered .fixed ::
        (Event.ofPass .revalidate ((a.fixed b).bundle.violations a.conventions) ++
          .entered .revalidated :: [.entered .done]) := by
    rw [h, trace]
    simp only [List.append_assoc, List.cons_append]
  have hopening : .entered .fixed ∉ opening response := entered_notMem_opening (by decide) response
  refine between_eq hevents ?_ (entered_notMem_ofPass _ _ _)
  simp [hopening, entered_notMem_ofPass, entered_notMem_ofFix]

lemma events_policy (a : Audit) (policy : Policy) (now : Timestamp) (response : Text) :
    (({ a with policy } : Audit).run now response).events = (a.run now response).events := by
  unfold run
  cases Response.draft a.stripFences response with
  | error e => rfl
  | ok draft =>
    dsimp only
    cases draft.assemble <;> rfl

lemma result_policy (a : Audit) (policy : Policy) (now : Timestamp) (response : Text) :
    (({ a with policy } : Audit).run now response).result =
      (({ a with policy := .warn } : Audit).run now response).result.bind
        ({ a with policy } : Audit).judge := by
  unfold run
  cases Response.draft a.stripFences response with
  | error e => rfl
  | ok draft =>
    dsimp only
    cases draft.assemble <;> rfl

lemma judge_strict (h : a.policy = .strict) (o : Outcome) :
    a.judge o = if o.report.passed then .ok o else .error (.notCompliant o.report.remaining) := by
  unfold judge
  cases o.report.passed <;> simp [h]

/-- An audit ends in exactly one of the five ways. The stages follow from the result, and no other error
is possible. Between two stages stand the findings of the pass, a warning for each violation in order
or one message that there is none. Under the two policies a response leaves the same events, and the
strict one only refuses a result in which violations are left. -/
theorem ends_iff_run (a : Audit) (now : Timestamp) (response : Text) :
    (∀ r, a.Ends now response r ↔ a.run now response = r) ∧
      (match (a.run now response).result with
        | .error (.sectionMissing _) => (a.run now response).stages = []
        | .error .metadataMalformed | .error (.metadataNotObject _) =>
          (a.run now response).stages = [.extracted]
        | .error (.notCompliant _) | .ok _ => (a.run now response).stages = Stage.all
        | .error _ => False) ∧
      (∀ b, Response.parse a.stripFences response = .ok b →
        (a.run now response).between .parsed .validated =
            Event.ofPass .validate (b.violations a.conventions) ∧
          (a.run now response).between .fixed .revalidated =
            Event.ofPass .revalidate ((a.fixed b).bundle.violations a.conventions)) ∧
      (∀ pass violations, (Event.ofPass pass violations).map (fun e => (e.level, e.message)) =
        if violations = [] then [(.info, ("no SSOT violations" : Text))]
        else violations.map fun v => (.warn, v.message)) ∧
      let strict := ({ a with policy := .strict } : Audit).run now response
      let warn := ({ a with policy := .warn } : Audit).run now response
      strict.events = warn.events ∧
        strict.result = warn.result.bind fun o =>
          if o.report.passed then .ok o else .error (.notCompliant o.report.remaining) := by
  have hunique (r : Run) : a.Ends now response r ↔ a.run now response = r :=
    ⟨Ends.eq_run, fun h => h ▸ ends_run a now response⟩
  refine ⟨hunique, ?_, fun b hparse => ?_, ofPass_logged, ?_⟩
  · have hends := ends_run a now response
    generalize a.run now response = r at hends
    cases hends with
    | sectionMissing => rfl
    | metadataMalformed => exact stages_opening response
    | metadataNotObject => exact stages_opening response
    | notCompliant => exact stages_trace a response _
    | succeeded => exact stages_trace a response _
  · have hevents : (a.run now response).events = a.trace response b := by rw [run_of_read hparse]
    exact ⟨between_parsed_validated hevents, between_fixed_revalidated hevents⟩
  · refine ⟨(events_policy a .strict now response).trans (events_policy a .warn now response).symm, ?_⟩
    rw [result_policy a .strict, funext (judge_strict (a := { a with policy := .strict }) rfl)]

/-- A block that has a name and nothing else. -/
def bare : Bundle where
  config := []
  registration := []
  render := []
  editorScript := []
  sharedScript := []
  style := []
  metadata := [("name", .string "cm/demo")]

/-- The block is read from its composed response, and both passes report what they find. -/
theorem ends_iff_run_bare :
    let run := ({} : Audit).run (.ofNanoseconds 0) (Response.compose bare)
    Response.parse true (Response.compose bare) = .ok bare ∧
      run.between .parsed .validated = Event.ofPass .validate (bare.violations {}) ∧
      run.between .fixed .revalidated =
        Event.ofPass .revalidate ((bare.fix {}).bundle.violations {}) := by
  have hparse : Response.parse true (Response.compose bare) = .ok bare := by decide +kernel
  obtain ⟨-, -, hpasses, -⟩ := ends_iff_run {} (.ofNanoseconds 0) (Response.compose bare)
  exact ⟨hparse, hpasses bare hparse⟩

end Audit

end BlockAudit
