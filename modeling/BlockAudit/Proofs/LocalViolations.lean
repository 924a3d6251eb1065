import BlockAudit.Proofs.Unresolved

/-!
# What a violation depends on

Violations are reported in the order of the rules, each once and under the file of its rule. A rule reads
the source of that file and at most one key of the metadata. Two bundles that agree in what a rule reads
give the same report of it, so a difference in one place shows in the violations of that place alone.
-/

namespace BlockAudit

variable {b b' : Bundle} {c : Conventions}

namespace Rule

/-- The codes that are reported for a file. -/
def codesOf : BlockFile → List Text
  | .metadata => ["SSOT001", "SSOT002", "SSOT003", "SSOT004", "SSOT005", "SSOT006", "SSOT007"]
  | .config =>
    ["SSOT008", "SSOT009", "SSOT010", "SSOT011", "SSOT012", "SSOT013", "SSOT014", "SSOT015", "SSOT016"]
  | .registration => ["SSOT017", "SSOT018", "SSOT019"]
  | .editorScript => ["SSOT020", "SSOT021"]
  | .sharedScript => ["SSOT022", "SSOT023"]
  | .render => ["SSOT024", "SSOT025"]
  | .style => ["SSOT026"]

/-- The files in the order in which their rules are checked. -/
def checkedFiles : List BlockFile :=
  [.metadata, .config, .registration, .editorScript, .sharedScript, .render, .style]

/-- The codes of the rules that look at the block's name or at names derived from it. -/
def codesOfName : List Text := ["SSOT001", "SSOT008", "SSOT021", "SSOT023", "SSOT025"]

/-- The key of the metadata that a rule reads. -/
def key? : Rule → Option Text
  | nameInNamespace | configClass | editorConfig | sharedConfig | renderClass => some "name"
  | titleStart => some "title"
  | category => some "category"
  | keyword => some "keywords"
  | exampleAttribute => some "attributes"
  | sharedStyleAsset => some "editorStyle"
  | sharedScriptAsset => some "viewScript"
  | _ => none

/-! ### Order -/

lemma map_code_all : all.map code = checkedFiles.flatMap codesOf := by decide +kernel

lemma pairwise_code_lt : (all.map code).Pairwise (· < ·) := by decide +kernel

lemma code_mem_codesOf {rule : Rule} {file : BlockFile} :
    rule.code ∈ codesOf file ↔ rule.file = file := by
  have hall : ∀ rule ∈ all, ∀ file ∈ checkedFiles, rule.code ∈ codesOf file ↔ rule.file = file := by
    decide +kernel
  exact hall rule (mem_all rule) file (by cases file <;> decide)

lemma key?_of_code_notMem {rule : Rule} (h : rule.code ∉ codesOfName) : rule.key? ≠ some "name" := by
  have hall : ∀ rule ∈ all, rule.code ∉ codesOfName → rule.key? ≠ some "name" := by decide +kernel
  exact hall rule (mem_all rule) h

lemma key?_of_file {rule : Rule} (h : rule.file ≠ .metadata) :
    rule.key? = some "name" ∨ rule.key? = none := by
  cases rule with
  | nameInNamespace | titleStart | category | keyword | exampleAttribute | sharedStyleAsset
  | sharedScriptAsset => exact absurd rfl h
  | configClass | editorConfig | sharedConfig | renderClass => exact .inl rfl
  | _ => exact .inr rfl

end Rule

lemma codes_sublist (b : Bundle) (c : Conventions) : (b.codes c).Sublist (Rule.all.map Rule.code) := by
  have hcodes : b.codes c = (Rule.all.filter fun rule => !rule.holds b c).map Rule.code := by
    unfold Bundle.codes Bundle.violations
    rw [List.map_map]
    rfl
  rw [hcodes]
  exact List.filter_sublist.map Rule.code

/-! ### What a rule reads -/

/-- A rule is reported of both bundles in the same words, or of neither. -/
structure Rule.SameReport (c : Conventions) (b b' : Bundle) (rule : Rule) : Prop where
  holds : rule.holds b' c = rule.holds b c
  violation : rule.violation (b'.name c) c = rule.violation (b.name c) c

lemma name_congr (h : b'.metadata.get? "name" = b.metadata.get? "name") : b'.name c = b.name c := by
  unfold Bundle.name Bundle.identifier Json.Fields.string?
  rw [h]

/-- A rule reads the source of its file and its key of the metadata, and nothing else. -/
lemma Rule.sameReport {rule : Rule} (hsource : b'.source? rule.file = b.source? rule.file)
    (hkey : ∀ key, rule.key? = some key → b'.metadata.get? key = b.metadata.get? key) :
    rule.SameReport c b b' := by
  have hstring {key : Text} (h : rule.key? = some key) :
      b'.metadata.string? key = b.metadata.string? key := by
    unfold Json.Fields.string?
    rw [hkey key h]
  have hname (h : rule.key? = some "name") : b'.name c = b.name c := name_congr (hkey _ h)
  cases rule with
  | nameInNamespace => exact ⟨by simp only [Rule.holds, hstring rfl], by rw [hname rfl]⟩
  | titleStart => exact ⟨by simp only [Rule.holds, hstring rfl], rfl⟩
  | category => exact ⟨by simp only [Rule.holds, hstring rfl], rfl⟩
  | keyword => exact ⟨by simp only [Rule.holds, listsText, hkey _ rfl], rfl⟩
  | exampleAttribute => exact ⟨by simp only [Rule.holds, exampleType?, hkey _ rfl], rfl⟩
  | sharedStyleAsset => exact ⟨by simp only [Rule.holds, mentionsAsset, hkey _ rfl], rfl⟩
  | sharedScriptAsset => exact ⟨by simp only [Rule.holds, mentionsAsset, hkey _ rfl], rfl⟩
  | configClass =>
    have hconfig : b'.config = b.config := Option.some.inj hsource
    exact ⟨by simp only [Rule.holds, hconfig, hname rfl], by rw [hname rfl]⟩
  | configMethod method =>
    have hconfig : b'.config = b.config := Option.some.inj hsource
    exact ⟨by simp only [Rule.holds, hconfig], rfl⟩
  | registrationInclude | localizedConfig | fileTimes =>
    have hregistration : b'.registration = b.registration := Option.some.inj hsource
    exact ⟨by simp only [Rule.holds, hregistration], rfl⟩
  | wrappedEditorScript =>
    have hscript : b'.editorScript = b.editorScript := Option.some.inj hsource
    exact ⟨by simp only [Rule.holds, hscript], rfl⟩
  | editorConfig =>
    have hscript : b'.editorScript = b.editorScript := Option.some.inj hsource
    exact ⟨by simp only [Rule.holds, hscript, hname rfl], by rw [hname rfl]⟩
  | noSharedRegistration =>
    have hscript : b'.sharedScript = b.sharedScript := Option.some.inj hsource
    exact ⟨by simp only [Rule.holds, hscript], rfl⟩
  | sharedConfig =>
    have hscript : b'.sharedScript = b.sharedScript := Option.some.inj hsource
    exact ⟨by simp only [Rule.holds, hscript, hname rfl], by rw [hname rfl]⟩
  | renderInclude =>
    have hrender : b'.render = b.render := Option.some.inj hsource
    exact ⟨by simp only [Rule.holds, hrender], rfl⟩
  | renderClass =>
    have hrender : b'.render = b.render := Option.some.inj hsource
    exact ⟨by simp only [Rule.holds, hrender, hname rfl], by rw [hname rfl]⟩
  | classStart =>
    have hstyle : b'.style = b.style := Option.some.inj hsource
    exact ⟨by simp only [Rule.holds, hstyle], rfl⟩

lemma filter_violations {pick : Violation → Bool} (rules : Rule → Bool)
    (hpick : ∀ rule name, pick (rule.violation name c) = rules rule) (b : Bundle) :
    (b.violations c).filter pick =
      ((Rule.all.filter rules).filter fun rule => !rule.holds b c).map
        fun rule => rule.violation (b.name c) c := by
  unfold Bundle.violations
  rw [List.filter_map, List.filter_comm]
  congr 2
  exact List.filter_congr fun rule _ => hpick rule (b.name c)

/-- Violations that are picked by their rules are the same when their rules are reported alike. -/
lemma filter_violations_congr {pick : Violation → Bool} (rules : Rule → Bool)
    (hpick : ∀ rule name, pick (rule.violation name c) = rules rule)
    (h : ∀ rule, rules rule = true → rule.SameReport c b b') :
    (b'.violations c).filter pick = (b.violations c).filter pick := by
  have hreport : ∀ rule ∈ Rule.all.filter rules, rule.SameReport c b b' :=
    fun rule hrule => h rule (List.mem_filter.1 hrule).2
  have hbroken : ((Rule.all.filter rules).filter fun rule => !rule.holds b' c) =
      (Rule.all.filter rules).filter fun rule => !rule.holds b c :=
    List.filter_congr fun rule hrule => by rw [(hreport rule hrule).holds]
  rw [filter_violations rules hpick, filter_violations rules hpick, hbroken]
  exact List.map_congr_left fun rule hrule => (hreport rule (List.mem_of_mem_filter hrule)).violation

/-! ### Differences in one place -/

/-- The bundles differ in one source at most. -/
structure Bundle.SameOutside (file : BlockFile) (b b' : Bundle) : Prop where
  metadata : b'.metadata = b.metadata
  source : ∀ other ≠ file, b'.source? other = b.source? other

lemma violations_outside {file : BlockFile} (h : Bundle.SameOutside file b b') :
    (b'.violations c).filter (fun v => v.file ≠ file) =
      (b.violations c).filter fun v => v.file ≠ file := by
  refine filter_violations_congr (fun rule => rule.file ≠ file) (fun _ _ => rfl) ?_
  intro rule hrule
  have hother : rule.file ≠ file := of_decide_eq_true hrule
  exact Rule.sameReport (h.source _ hother) fun key _ => by rw [h.metadata]

lemma violations_of_sources (hsources : b'.toSources = b.toSources)
    (hname : b'.metadata.get? "name" = b.metadata.get? "name") :
    (b'.violations c).filter (fun v => v.code ∉ Rule.codesOf .metadata) =
      (b.violations c).filter fun v => v.code ∉ Rule.codesOf .metadata := by
  refine filter_violations_congr (fun rule => rule.code ∉ Rule.codesOf .metadata)
    (fun _ _ => rfl) ?_
  intro rule hrule
  have hfile : rule.file ≠ .metadata := by
    rw [ne_eq, ← Rule.code_mem_codesOf]
    exact of_decide_eq_true hrule
  refine Rule.sameReport (by rw [hsources]) fun key hkey => ?_
  rcases Rule.key?_of_file hfile with h | h
  · rw [h] at hkey
    obtain rfl := Option.some.inj hkey
    exact hname
  · rw [h] at hkey
    exact absurd hkey (by simp)

lemma violations_unnamed (hsources : b'.toSources = b.toSources)
    (hothers : ∀ key ≠ "name".toList, b'.metadata.get? key = b.metadata.get? key) :
    (b'.violations c).filter (fun v => v.code ∉ Rule.codesOfName) =
      (b.violations c).filter fun v => v.code ∉ Rule.codesOfName := by
  refine filter_violations_congr (fun rule => rule.code ∉ Rule.codesOfName)
    (fun _ _ => rfl) ?_
  intro rule hrule
  refine Rule.sameReport (by rw [hsources]) fun key hkey => hothers key ?_
  rintro rfl
  exact Rule.key?_of_code_notMem (of_decide_eq_true hrule) hkey

/-- The codes of the violations ascend, and each belongs to one file. Two bundles that differ in one source
have the same violations of all other files; if they differ in metadata other than the block's name, those
of all files but the metadata; if they differ in the block's name, all but the five that look at it. -/
theorem violations_ordered_and_local (c : Conventions) :
    (∀ b : Bundle, (b.codes c).Pairwise (· < ·) ∧
      (b.codes c).Sublist (Rule.checkedFiles.flatMap Rule.codesOf) ∧
      ∀ v ∈ b.violations c, ∀ file, v.code ∈ Rule.codesOf file ↔ v.file = file) ∧
    (∀ (b b' : Bundle) (file : BlockFile), Bundle.SameOutside file b b' →
      (b'.violations c).filter (fun v => v.file ≠ file) =
        (b.violations c).filter fun v => v.file ≠ file) ∧
    (∀ b b' : Bundle, b'.toSources = b.toSources →
      b'.metadata.get? "name" = b.metadata.get? "name" →
      (b'.violations c).filter (fun v => v.code ∉ Rule.codesOf .metadata) =
        (b.violations c).filter fun v => v.code ∉ Rule.codesOf .metadata) ∧
    ∀ b b' : Bundle, b'.toSources = b.toSources →
      (∀ key ≠ "name".toList, b'.metadata.get? key = b.metadata.get? key) →
      (b'.violations c).filter (fun v => v.code ∉ Rule.codesOfName) =
        (b.violations c).filter fun v => v.code ∉ Rule.codesOfName := by
  refine ⟨fun b => ⟨?_, ?_, ?_⟩, fun b b' file h => violations_outside h,
    fun b b' => violations_of_sources, fun b b' => violations_unnamed⟩
  · exact Rule.pairwise_code_lt.sublist (codes_sublist b c)
  · rw [← Rule.map_code_all]
    exact codes_sublist b c
  · intro v hv file
    obtain ⟨rule, -, rfl⟩ := List.mem_map.1 hv
    exact Rule.code_mem_codesOf

/-- A block with the files of the block `cm/demo`. -/
def demoNamed (name title config : Text) : Bundle where
  config := config
  registration := "require __DIR__ . '/config.php';"
  render := "CM_Demo_Config::get_defaults();"
  editorScript := "(function() { window.cmDemoConfig; })();"
  sharedScript := "window.cmDemoConfig;"
  style := ".cm-demo { }"
  metadata := [("name", .string name), ("title", .string title)]

/-- A class that is lost, a title that is corrected, and a block that is renamed each break or mend a rule,
and each leaves the other violations as they are. -/
theorem violations_ordered_and_local_demoNamed :
    let demo := demoNamed "cm/demo" "Demo" "class CM_Demo_Config { }"
    let unclassed := demoNamed "cm/demo" "Demo" "function get_defaults() { }"
    let titled := demoNamed "cm/demo" "CM Demo" "class CM_Demo_Config { }"
    let renamed := demoNamed "cm/other" "Demo" "class CM_Demo_Config { }"
    (Rule.configClass.holds demo {} = true ∧ Rule.configClass.holds unclassed {} = false ∧
      (unclassed.violations {}).filter (fun v => v.file ≠ .config) =
        (demo.violations {}).filter fun v => v.file ≠ .config) ∧
    (Rule.titleStart.holds demo {} = false ∧ Rule.titleStart.holds titled {} = true ∧
      (titled.violations {}).filter (fun v => v.code ∉ Rule.codesOf .metadata) =
        (demo.violations {}).filter fun v => v.code ∉ Rule.codesOf .metadata) ∧
    (Rule.editorConfig.holds demo {} = true ∧ Rule.editorConfig.holds renamed {} = false ∧
      (renamed.violations {}).filter (fun v => v.code ∉ Rule.codesOfName) =
        (demo.violations {}).filter fun v => v.code ∉ Rule.codesOfName) := by
  obtain ⟨-, houtside, hsources, hunnamed⟩ := violations_ordered_and_local {}
  unfold demoNamed
  refine ⟨⟨by decide +kernel, by decide +kernel, houtside _ _ _ ⟨rfl, fun other hother => ?_⟩⟩,
    ⟨by decide +kernel, by decide +kernel, hsources _ _ rfl rfl⟩,
    ⟨by decide +kernel, by decide +kernel, hunnamed _ _ rfl fun key hkey => ?_⟩⟩
  · cases other with
    | config => exact absurd rfl hother
    | _ => simp only [Sources.source?]
  · have hname : (key == "name".toList) = false := beq_eq_false_iff_ne.2 hkey
    simp only [Json.Fields.get?, List.lookup_cons, hname]

end BlockAudit
