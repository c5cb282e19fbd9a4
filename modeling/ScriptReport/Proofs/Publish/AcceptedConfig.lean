/-
  ScriptReport.Proofs.Publish.AcceptedConfig

  With a configuration that was accepted, every script gets its report. Each place in which a run
  without files and without an interpreter could stop is looked at on its own: the options, the
  class of a line, a round of the segmentation, a block under a header, a result that is attached to
  a position, a token that is rendered by its name (`RunsThrough`). Main statement: nothing of this
  ever fails, and the report is there (`runsThrough_of_accepted`).
-/

import ScriptReport.Proofs.Publish.RoundTrip
import ScriptReport.Proofs.Report.NamedTokens
import ScriptReport.Proofs.Report.Numbering
import ScriptReport.Proofs.Script.Reading
import ScriptReport.Proofs.Script.Segmentation
import ScriptReport.Proofs.Settings.Accepted

namespace ScriptReport.Publish

open ScriptReport.Script ScriptReport.Evaluation ScriptReport.Report
open ScriptReport.Script.Document (AttachFault)

/-! ## Attaching results -/

/-- The segment with a result, if it is code. -/
def withResult (result : ExecutionResult) : Segment → Segment
  | .code c => .code { c with result := some result }
  | .header h => .header h

/-- The document with the same result for all its code. -/
def withResults (result : ExecutionResult) (doc : Document) : Document :=
  { doc with body := doc.body.map (withResult result) }

/-- A result is attached to one code segment of the document after another, at the positions that
    they have before. -/
def attachAll (doc : Document) (result : ExecutionResult) (limit : Option Int) :
    Except AttachFault Document :=
  doc.codeSegments.foldlM (fun doc position => doc.attach position.1 result limit) doc

/-- The code segments among `rest`, with their positions behind `first` other segments. -/
def codeSegmentsFrom (first : Nat) (rest : List Segment) : List (Nat × CodeSegment) :=
  (rest.zipIdx first).filterMap fun (segment, i) =>
    match segment with
    | .code c => some (i, c)
    | .header _ => none

/-- A result is attached to the code segment at a position. -/
theorem attach_code {doc : Document} {front rest : List Segment} {c : CodeSegment}
    (hbody : doc.body = front ++ .code c :: rest) (result : ExecutionResult) (limit : Option Int) :
    doc.attach front.length result limit =
      .ok { doc with body := front ++ withResult (result.truncated limit) (.code c) :: rest } := by
  have hposition : Document.position? doc.body.length front.length = some front.length := by
    have hlt : front.length < doc.body.length := by
      rw [hbody, List.length_append, List.length_cons]
      omega
    exact if_pos hlt
  have hcode : doc.body[front.length]? = some (.code c) := by
    rw [hbody, List.getElem?_append_right (Nat.le_refl _), Nat.sub_self]
    rfl
  rw [Document.attach, hposition]
  simp only [hcode]
  rw [hbody, List.set_append_right _ _ (Nat.le_refl _), Nat.sub_self]
  rfl

/-- The results are attached one after another: what is in front has its results already. -/
theorem attachFrom_eq (result : ExecutionResult) (limit : Option Int) {doc : Document}
    {front rest : List Segment} (hbody : doc.body = front ++ rest) :
    (codeSegmentsFrom front.length rest).foldlM
        (fun doc position => doc.attach position.1 result limit) doc =
      .ok { doc with body := front ++ rest.map (withResult (result.truncated limit)) } := by
  induction rest generalizing doc front with
  | nil =>
    rw [List.append_nil] at hbody
    rw [List.map_nil, List.append_nil, ← hbody]
    rfl
  | cons segment rest ih =>
    cases segment with
    | header h =>
      -- a header takes a position and no result
      have hnext := @ih doc (front ++ [.header h]) (by rw [hbody, List.append_assoc]; rfl)
      rw [List.length_append, List.length_singleton, List.append_assoc] at hnext
      exact hnext
    | code c =>
      have hcode : codeSegmentsFrom front.length (.code c :: rest) =
          (front.length, c) :: codeSegmentsFrom (front.length + 1) rest := rfl
      rw [hcode, List.foldlM_cons, attach_code hbody]
      -- the segment with its result moves to the front, where no later position reaches it
      have hnext := @ih
        { doc with body := front ++ withResult (result.truncated limit) (.code c) :: rest }
        (front ++ [withResult (result.truncated limit) (.code c)])
        (by rw [List.append_assoc]; rfl)
      rw [List.length_append, List.length_singleton, List.append_assoc] at hnext
      exact hnext

/-- Every code segment is where it is looked for. -/
theorem attachAll_eq (doc : Document) (result : ExecutionResult) (limit : Option Int) :
    attachAll doc result limit = .ok (withResults (result.truncated limit) doc) :=
  @attachFrom_eq result limit doc [] doc.body rfl

/-! ## Evaluating nothing -/

variable {σ κ : Type}

theorem runSegments_idle (noContext : κ) (catchError : Bool) (limit : Option Int)
    (segments : List Segment) (context : κ) (s : σ) :
    runSegments (Evaluator.idle σ κ noContext) catchError limit segments context s =
      ⟨segments.map (withResult (({} : ExecutionResult).truncated limit)), context, none, s⟩ := by
  induction segments with
  | nil => rfl
  | cons segment rest ih =>
    cases segment with
    | header h => rw [runSegments, ih]; rfl
    | code c =>
      have hcall : (Evaluator.idle σ κ noContext).call c.code context s = (.ok { context }, s) := rfl
      rw [runSegments, hcall]
      simp only [ih]
      rfl

/-- The evaluator that runs nothing never fails, and gives each code segment an empty result. -/
theorem evaluate_idle (noContext : κ) (o : Options) (doc : Document) (s : σ) :
    evaluate (Evaluator.idle σ κ noContext) o doc s =
      (withResults (ExecutionResult.truncated {} o.maxOutputLines) doc, none, s) := by
  have hprelude : runPrelude (Evaluator.idle σ κ noContext) o.codeToEvaluate noContext s =
      (.ok noContext, s) := by
    unfold runPrelude
    split <;> rfl
  have hnew : (Evaluator.idle σ κ noContext).newContext = some fun s => (noContext, s) := rfl
  have hdiscard : (Evaluator.idle σ κ noContext).discard = some fun _ s => (.ok (), s) := rfl
  unfold evaluate
  simp only [hnew, hprelude, hdiscard, runSegments_idle, withResults]

/-! ## Whole runs -/

/-- The report of lines with the options of a configuration, without evaluator and files. -/
def publishLines (config : Config) (sourceName : Chars) (lines : List Chars) :
    Except Fault Chars := do
  let o ← (Options.fromConfig config []).mapError Fault.options
  (publishText config.comments o sourceName none (Evaluator.idle Unit Unit ()) lines ()).report

/-- The document of lines, with the empty results of the evaluator that runs nothing if code is to
    be run. -/
def idleDocument (config : Config) (sourceName : Chars) (lines : List Chars) : Document :=
  let doc := (Script.read config.comments sourceName lines).1
  if config.evalCode then withResults (ExecutionResult.truncated {} config.maxOutputLines) doc
  else doc

/-- Nothing stops the run of a script with a configuration, in any of the places where it could. -/
structure RunsThrough (config : Config) (sourceName : Chars) (lines : List Chars) : Prop where
  /-- The options are drawn from the configuration and pass their check. -/
  options : Options.fromConfig config [] = .ok (Options.ofConfig config)
  /-- No class of a line is told by a character behind the end of the line. -/
  classes : ∀ count line,
    lookBehind config.comments count line = .ok (isMarkup config.comments count line)
  /-- Every round of the segmentation passes a line. -/
  segments : scan config.comments lines = .ok (segmentation config.comments lines)
  /-- Reading the text under a header looks at no line and no item that is not there. -/
  items : ∀ body, readItemsChecked body = .ok (readItems body)
  /-- Every result is attached to a code segment. -/
  attached : attachAll (Script.read config.comments sourceName lines).1 {} config.maxOutputLines =
    .ok (withResults (ExecutionResult.truncated {} config.maxOutputLines)
      (Script.read config.comments sourceName lines).1)
  /-- Every token is of a kind that the renderer knows. -/
  tokens : ∀ format text,
    Renderer.renderAllNamed (.format format) (Renderer.namesOf (readInline text)) =
      .ok (renderInline (backEnd format) text)
  /-- Rendering the document token by token, each by its name, does not fail and gives the report,
      whatever state the renderer is in. -/
  rendered : ∀ format s,
    ((Renderer.format format).document config.showCode (idleDocument config sourceName lines) s).1 =
      .ok (Report.report format config.showCode (idleDocument config sourceName lines))
  /-- There is a renderer for the format, and the report is the one of the document. -/
  report : ∃ format : Format, config.format = format.name ∧
    publishLines config sourceName lines =
      .ok (Report.report format config.showCode (idleDocument config sourceName lines))

theorem publishLines_eq {config : Config} (h : config.IsUsable) {format : Format}
    (hformat : config.format = format.name) (sourceName : Chars) (lines : List Chars) :
    publishLines config sourceName lines =
      .ok (Report.report format config.showCode (idleDocument config sourceName lines)) := by
  obtain ⟨a, b, hcomments⟩ := h.comments
  -- both comment texts are single characters, so no line ends inside of one
  have hshort : hasCutShortLine config.comments lines = false := by
    rw [hcomments, hasCutShortLine_singles]
  -- the evaluator that runs nothing does not fail, whether code is to be run or not
  have hevaluate : evaluateIf (Evaluator.idle Unit Unit ()) (Options.ofConfig config)
      (Script.read config.comments sourceName lines).1 () =
        (idleDocument config sourceName lines, none, ()) := by
    have hevalCode : (Options.ofConfig config).evalCode = config.evalCode := rfl
    unfold evaluateIf idleDocument
    rw [hevalCode, evaluate_idle]
    cases config.evalCode <;> rfl
  have hreport : publishLines config sourceName lines =
      (publishText config.comments (Options.ofConfig config) sourceName none
        (Evaluator.idle Unit Unit ()) lines ()).report := by
    rw [publishLines, h.fromConfig]
    rfl
  rw [hreport, publishText_of_prepare (prepare_eq_read hshort sourceName) (by rw [hevaluate]) hformat,
    hevaluate]
  rfl

/-- With a configuration that was accepted, every script gets its report, and nothing on the way
    could have failed. -/
theorem runsThrough_of_accepted {document : Yaml.Document} {written : WrittenConfig}
    (haccepted : WrittenConfig.ofDocument document = .ok written) (sourceName : Chars)
    (lines : List Chars) : RunsThrough written.toConfig sourceName lines := by
  have husable := WrittenConfig.isUsable_of_ofDocument haccepted
  obtain ⟨a, b, hcomments⟩ := husable.comments
  obtain ⟨format, hformat⟩ := husable.format
  constructor
  case options => exact husable.fromConfig
  case classes => exact fun count line => by rw [hcomments, lookBehind_singles]
  case segments => exact scan_eq_segmentation _ _
  case items => exact readItemsChecked_eq
  case attached => exact attachAll_eq _ _ _
  case tokens => exact Renderer.renderAllNamed_namesOf_readInline
  case rendered => exact fun f s => congrArg Except.ok (renderDocument_fst f _ _ s)
  case report => exact ⟨format, hformat, publishLines_eq husable hformat sourceName lines⟩

/-- A document with comment characters, a format and a limit. -/
def semicolonDocument : Yaml.Document where
  root := .collection 0
  cells := #[
    .mapping [
      (.text (Text.Wide.ofChars "comment_chars"), .collection 1),
      (.text (Text.Wide.ofChars "format"), .text (Text.Wide.ofChars "LaTeX")),
      (.text (Text.Wide.ofChars "max_output_lines"), .integer 0)],
    .list [.text (Text.Wide.ofChars ";"), .text (Text.Wide.ofChars "#")]]

/-- The document is accepted, and a script gets its report. -/
theorem runsThrough_of_semicolonDocument :
    ∃ written, WrittenConfig.ofDocument semicolonDocument = .ok written ∧
      written.toConfig.comments = [[';'], ['#']] ∧
      ∃ report, publishLines written.toConfig [] [";; T", "; a", "x = 1;"] = .ok report := by
  have haccepted : ∃ written, WrittenConfig.ofDocument semicolonDocument = .ok written ∧
      written.toConfig.comments = [[';'], ['#']] := ⟨_, rfl, rfl⟩
  obtain ⟨written, hwritten, hcomments⟩ := haccepted
  have hruns := runsThrough_of_accepted hwritten [] [";; T", "; a", "x = 1;"]
  obtain ⟨format, -, hreport⟩ := hruns.report
  exact ⟨written, hwritten, hcomments, _, hreport⟩

end ScriptReport.Publish
