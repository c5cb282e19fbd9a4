/-
  ScriptReport.Proofs.Report.SourceRecovery

  When the script can be recovered from a report. The footer writes an opener, the script and an end
  line; what is recovered starts after the first opener of the report, where openers of HTML are
  looked for first. Main statements: an HTML report gives its script back exactly when no HTML
  opener stands before the footer's (`extractSource_htmlReport_iff`), so that a footer does behind
  any text without an opener (`extractSource_htmlFooter`); a LaTeX report does exactly when it has
  no HTML opener at all and no LaTeX opener before the footer's (`extractSource_latexReport_iff`).

  An opener that comes too early cannot give the script back by chance. The text after it is longer
  than the script, or, where references are read back in a LaTeX report, it would have to hold its
  own unescaped form with more lines in front; and one that comes too late leaves a shorter text.
-/

import ScriptReport.Proofs.Html.Unescape
import ScriptReport.Proofs.Success
import ScriptReport.Proofs.Text.Occurrence
import ScriptReport.Report.Render
import ScriptReport.Report.Source

namespace ScriptReport.Report

open ScriptReport.Html (escapeMarkup unescape)

/-! ## From the start to the end line -/

variable {front body tail text : Chars} {start : Nat} {coding : SourceCoding}

theorem fault_of_sourceSpan {report : Chars} {fault : Fault}
    (h : sourceSpan report = .error fault) :
    fault = .input .noSourceBegin ∨ fault = .input .noSourceEnd := by
  unfold sourceSpan at h
  split at h
  · exact .inl (Except.error.inj h).symm
  · split at h
    · exact .inr (Except.error.inj h).symm
    · split_ifs at h
      exact .inr (Except.error.inj h).symm

theorem fault_of_decodeWide {text : Text.Wide} {fault : Fault}
    (h : coding.decodeWide text = .error fault) : ∃ digits, fault = .overlongNumber digits := by
  cases coding with
  | plain => cases h
  | references =>
    simp only [SourceCoding.decodeWide] at h
    split at h
    · exact ⟨_, (Except.error.inj h).symm⟩
    · cases h

/-- A script is not recovered if its begin or its end is missing, or if it has a reference by a
    decimal number that is too long. -/
theorem fault_of_extractWide {report : Text.Wide} {fault : Fault}
    (h : extractWide report = .error fault) :
    fault = .input .noSourceBegin ∨ fault = .input .noSourceEnd ∨
      ∃ digits, fault = .overlongNumber digits := by
  rw [extractWide, bind_eq_error_iff] at h
  rcases h with hspan | ⟨⟨start, stop, coding⟩, -, hdecode⟩
  · exact (fault_of_sourceSpan hspan).imp_right .inl
  · exact .inr (.inr (fault_of_decodeWide hdecode))

/-- An opener ends with a line end. -/
theorem opener_append {opener : Chars} (h : opener.getLast? = some '\n') (text : Chars) :
    opener ++ text = opener.dropLast ++ '\n' :: text := by
  obtain ⟨front, rfl⟩ := List.getLast?_eq_some_iff.mp h
  rw [List.dropLast_concat, List.append_assoc, List.singleton_append]

/-- References are read back on the lines before `body` and in `body` apart. -/
theorem decode_references_lines
    (h : SourceCoding.references.decode (front ++ '\n' :: body) = .ok text) :
    text = unescape front ++ '\n' :: unescape body := by
  rw [← Html.unescape_append_newline]
  simp only [SourceCoding.decode] at h
  split at h
  · cases h
  · exact (Except.ok.inj h).symm

/-- What is recovered if an opener ends at `start`, in a report that ends with `tail`. -/
theorem extractSource_of_start
    (hstart : sourceStart? (front ++ body ++ tail) = some (start, coding))
    (htail : Text.findLast? endMarker tail = some 0) (hle : start ≤ front.length) :
    extractSource (front ++ body ++ tail) = coding.decode (front.drop start ++ body) := by
  have hlast := Text.findLast?_append htail (front ++ body)
  have hstop : ¬ (front ++ body).length + 0 + 1 < start := by
    rw [List.length_append]
    omega
  have hmax : max start ((front ++ body).length + 0) = (front ++ body).length := by
    rw [List.length_append]
    omega
  have hspan : sourceSpan (front ++ body ++ tail) =
      .ok (start, (front ++ body).length, coding) := by
    simp only [sourceSpan, hstart, hlast, if_neg hstop, hmax]
  have hslice : ((front ++ body ++ tail).take (front ++ body).length).drop start =
      front.drop start ++ body := by
    rw [List.take_left' rfl, List.drop_append_of_le_length hle]
  rw [extractSource, hspan, ← hslice]
  rfl

/-- What is recovered if a first opener ends before the footer's own: more lines before `body`. -/
theorem extractSource_of_early {before opener : Chars}
    (hstart : sourceStart? (before ++ opener ++ body ++ tail) = some (start, coding))
    (htail : Text.findLast? endMarker tail = some 0) (hline : opener.getLast? = some '\n')
    (hle : start ≤ before.length) :
    ∃ lines, extractSource (before ++ opener ++ body ++ tail) =
      coding.decode (lines ++ '\n' :: body) := by
  have hwithin : start ≤ (before ++ opener).length := by
    rw [List.length_append]
    omega
  refine ⟨before.drop start ++ opener.dropLast, ?_⟩
  rw [extractSource_of_start hstart htail hwithin, List.drop_append_of_le_length hle,
    List.append_assoc, opener_append hline, List.append_assoc]

/-- What is recovered after an opener that ends behind `front` is shorter than `body`. -/
theorem length_lt_of_start (hstart : sourceStart? (front ++ body ++ tail) = some (start, coding))
    (htail : Text.findLast? endMarker tail = some 0) (hlt : front.length < start)
    (hbody : body ≠ []) (h : extractSource (front ++ body ++ tail) = .ok text) :
    text.length < body.length := by
  have hpos := List.length_pos_iff.mpr hbody
  have hlast := Text.findLast?_append htail (front ++ body)
  rw [Nat.add_zero, List.length_append] at hlast
  have hcut : (((front ++ body ++ tail).take (max start (front.length + body.length))).drop
      start).length < body.length := by
    rw [List.length_drop, List.length_take]
    omega
  rw [extractSource, bind_eq_ok_iff] at h
  obtain ⟨span, hspan, h⟩ := h
  simp only [sourceSpan, hstart, hlast] at hspan
  split_ifs at hspan
  cases hspan
  cases coding with
  | plain =>
    cases h
    exact hcut
  | references =>
    simp only [SourceCoding.decode] at h
    split at h
    · cases h
    · cases h
      exact (Html.length_unescape_le _).trans_lt hcut

/-! ## HTML reports -/

/-- What follows the script in an HTML report. -/
def htmlEnding : Chars := endMarker ++ "\n-->\n</body>\n</html>\n"

/-- An HTML report, from what comes before the opener of its footer and from its script. -/
def htmlReport (before source : Chars) : Chars :=
  before ++ htmlOpener ++ escapeMarkup source ++ htmlEnding

/-- What comes before the footer can be told from the report and the script. -/
theorem htmlReport_cancel {a b source : Chars} (h : htmlReport a source = htmlReport b source) :
    a = b := by
  simp only [htmlReport, List.append_assoc] at h
  exact List.append_cancel_right h

theorem findLast?_htmlEnding : Text.findLast? endMarker htmlEnding = some 0 := by
  decide

theorem find?_htmlOpener_htmlReport (before source : Chars) :
    Text.find? htmlOpener (htmlReport before source) =
      (Text.find? htmlOpener before).or (some before.length) := by
  rw [htmlReport, List.append_assoc, List.append_assoc]
  exact Text.find?_append_self (by decide)

/-- An HTML report gives its script back exactly if no opener comes before that of its footer. -/
theorem extractSource_htmlReport_iff (before source : Chars) :
    extractSource (htmlReport before source) = .ok source ↔
      Text.contains htmlOpener before = false := by
  rw [Text.contains_eq_false_iff]
  have hfind := find?_htmlOpener_htmlReport before source
  cases hbefore : Text.find? htmlOpener before with
  | none =>
    rw [hbefore, Option.none_or] at hfind
    have hstart : sourceStart? (htmlReport before source) =
        some ((before ++ htmlOpener).length, .references) := by
      rw [sourceStart?, hfind, List.length_append]
    -- the first opener is that of the footer
    refine iff_of_true ?_ rfl
    rw [htmlReport, extractSource_of_start hstart findLast?_htmlEnding le_rfl, List.drop_length,
      List.nil_append, SourceCoding.decode, Html.overlongNumber?_escapeMarkup,
      Html.unescape_escapeMarkup]
  | some i =>
    rw [hbefore, Option.some_or] at hfind
    have hstart : sourceStart? (htmlReport before source) =
        some (i + htmlOpener.length, .references) := by
      rw [sourceStart?, hfind]
    obtain ⟨lines, hlines⟩ := extractSource_of_early hstart findLast?_htmlEnding (by decide)
      (Text.find?_le_length hbefore)
    -- the script would have more lines in front of it than it has
    refine iff_of_false (fun h => ?_) (by simp)
    have htext := decode_references_lines (hlines.symm.trans h)
    rw [Html.unescape_escapeMarkup] at htext
    have hlen := congrArg List.length htext
    rw [List.length_append, List.length_cons] at hlen
    omega

/-! ## LaTeX reports -/

/-- What follows the script in a LaTeX report. -/
def latexEnding : Chars := endMarker ++ "\n\\end\x7bcomment\x7d\n\\end\x7bdocument\x7d\n"

/-- A LaTeX report, from what comes before the opener of its footer and from its script. -/
def latexReport (before source : Chars) : Chars := before ++ latexOpener ++ source ++ latexEnding

theorem latexReport_cancel {a b source : Chars} (h : latexReport a source = latexReport b source) :
    a = b := by
  simp only [latexReport, List.append_assoc] at h
  exact List.append_cancel_right h

theorem findLast?_latexEnding : Text.findLast? endMarker latexEnding = some 0 := by
  decide

theorem find?_latexOpener_latexReport (before source : Chars) :
    Text.find? latexOpener (latexReport before source) =
      (Text.find? latexOpener before).or (some before.length) := by
  rw [latexReport, List.append_assoc, List.append_assoc]
  exact Text.find?_append_self (by decide)

/-- An opener of HTML in a LaTeX report stands before the footer, or not before the script. -/
theorem find?_htmlOpener_latexReport (before source : Chars) :
    Text.find? htmlOpener (latexReport before source) =
      (Text.find? htmlOpener before).or
        ((Text.find? htmlOpener (source ++ latexEnding)).map
          (before.length + latexOpener.length + ·)) := by
  have hborder : Text.find? htmlOpener (latexOpener ++ (source ++ latexEnding)) =
      (Text.find? htmlOpener (source ++ latexEnding)).map (latexOpener.length + ·) :=
    Text.find?_append_of_not_mem (by decide)
  have hsplit : Text.find? htmlOpener (before ++ (latexOpener ++ (source ++ latexEnding))) =
      (Text.find? htmlOpener before).or
        ((Text.find? htmlOpener (latexOpener ++ (source ++ latexEnding))).map
          (before.length + ·)) :=
    Text.find?_append_cons (by decide)
  rw [latexReport, List.append_assoc, List.append_assoc, hsplit, hborder, Option.map_map]
  congr 2
  funext j
  exact (Nat.add_assoc _ _ _).symm

/-- A LaTeX report gives its script back exactly if it has no opener of HTML, and no opener of its
    own before that of its footer. -/
theorem extractSource_latexReport_iff (before source : Chars) :
    extractSource (latexReport before source) = .ok source ↔
      Text.contains htmlOpener (latexReport before source) = false ∧
        Text.contains latexOpener before = false := by
  rw [Text.contains_eq_false_iff, Text.contains_eq_false_iff]
  have hhtml := find?_htmlOpener_latexReport before source
  have hlatex := find?_latexOpener_latexReport before source
  cases hbefore : Text.find? htmlOpener before with
  | some i =>
    -- the first opener stands before the footer, and references are read back from there on
    rw [hbefore, Option.some_or] at hhtml
    have hstart : sourceStart? (latexReport before source) =
        some (i + htmlOpener.length, .references) := by
      rw [sourceStart?, hhtml]
    obtain ⟨lines, hlines⟩ := extractSource_of_early hstart findLast?_latexEnding (by decide)
      (Text.find?_le_length hbefore)
    refine iff_of_false (fun h => ?_) (by simp [hhtml])
    exact Html.ne_append_newline_unescape _ _ (decode_references_lines (hlines.symm.trans h))
  | none =>
    rw [hbefore, Option.none_or] at hhtml
    cases hafter : Text.find? htmlOpener (source ++ latexEnding) with
    | some j =>
      -- the first opener stands behind the place where the script starts
      rw [hafter, Option.map_some] at hhtml
      have hstart : sourceStart? (latexReport before source) =
          some (before.length + latexOpener.length + j + htmlOpener.length, .references) := by
        rw [sourceStart?, hhtml]
      -- so there is a script, and less than all of it comes back
      have hne : source ≠ [] := by
        rintro rfl
        rw [List.nil_append, show Text.find? htmlOpener latexEnding = none by decide] at hafter
        cases hafter
      have hlt : (before ++ latexOpener).length <
          before.length + latexOpener.length + j + htmlOpener.length := by
        have hpos : 0 < htmlOpener.length := by decide
        rw [List.length_append]
        omega
      refine iff_of_false (fun h => ?_) (by simp [hhtml])
      exact absurd (length_lt_of_start hstart findLast?_latexEnding hlt hne h) (lt_irrefl _)
    | none =>
      rw [hafter, Option.map_none] at hhtml
      rw [hhtml, eq_self_iff_true, true_and]
      -- no opener of HTML at all, so openers of LaTeX decide
      cases hown : Text.find? latexOpener before with
      | none =>
        rw [hown, Option.none_or] at hlatex
        have hstart : sourceStart? (latexReport before source) =
            some ((before ++ latexOpener).length, .plain) := by
          rw [sourceStart?, hhtml, hlatex, List.length_append]
        refine iff_of_true ?_ rfl
        rw [latexReport, extractSource_of_start hstart findLast?_latexEnding le_rfl,
          List.drop_length, List.nil_append, SourceCoding.decode]
      | some i =>
        rw [hown, Option.some_or] at hlatex
        have hstart : sourceStart? (latexReport before source) =
            some (i + latexOpener.length, .plain) := by
          rw [sourceStart?, hhtml, hlatex]
        obtain ⟨lines, hlines⟩ := extractSource_of_early hstart findLast?_latexEnding (by decide)
          (Text.find?_le_length hown)
        refine iff_of_false (fun h => ?_) (by simp)
        have hlen := congrArg List.length (Except.ok.inj (hlines.symm.trans h))
        rw [List.length_append, List.length_cons] at hlen
        omega

/-! ## Footers behind any text -/

theorem htmlReport_eq (before source : Chars) :
    htmlReport before source =
      before ++ (Html.sourceComment source ++ "</body>\n</html>\n") := by
  have hending : htmlEnding = "\n" ++ (sourceEnd ++ ("\n-->\n" ++ "</body>\n</html>\n")) := rfl
  unfold htmlReport Html.sourceComment htmlOpener
  simp only [hending, List.append_assoc]

theorem latexReport_eq (before source : Chars) (s : State) :
    latexReport before source = before ++ (Latex.footer source s).1 := by
  have hopener : latexOpener = Latex.beginEnv "comment" [] ++ (sourceBegin ++ "\n") := rfl
  have hending : latexEnding =
      "\n" ++ (sourceEnd ++ ("\n" ++ (Latex.endEnv "comment" ++ Latex.endEnv "document"))) := rfl
  unfold latexReport Latex.footer Latex.environment
  simp only [hopener, hending, List.append_assoc]

/-- What the footer of an HTML report starts with, up to the comment with the script. -/
def htmlFooterFront (s : State) : Chars :=
  (Html.closeSection s).1 ++ ("\n<footer>Published with " ++ (Html.generator ++ "</footer>\n"))

theorem append_htmlFooter (before source : Chars) (s : State) :
    before ++ (Html.footer source s).1 = htmlReport (before ++ htmlFooterFront s) source := by
  rw [htmlReport_eq, htmlFooterFront, Html.footer]
  simp only [List.append_assoc]

/-- The footer finishes no opener but one that only lacks its line end. -/
theorem contains_htmlOpener_htmlFooterFront {before : Chars}
    (h : Text.contains htmlOpener (before ++ "\n") = false) (s : State) :
    Text.contains htmlOpener (before ++ htmlFooterFront s) = false := by
  -- an opener cannot reach over a `<`, and the footer has one at its front or behind a line feed
  have hborder {front rest : Chars} (hfront : Text.contains htmlOpener front = false)
      (hrest : Text.find? htmlOpener ('<' :: rest) = none) :
      Text.contains htmlOpener (front ++ '<' :: rest) = false := by
    rw [Text.contains_eq_false_iff] at hfront ⊢
    rw [Text.find?_append_cons (by decide), hfront, hrest]
    rfl
  obtain ⟨counter, insideSection⟩ := s
  cases insideSection with
  | true =>
    have hbefore : Text.contains htmlOpener before = false := by
      rw [← Bool.not_eq_true, Text.contains_eq_true_iff] at h ⊢
      exact fun hin => h (hin.trans (List.prefix_append _ _).isInfix)
    exact hborder hbefore (by decide)
  | false =>
    have hsplit : before ++ htmlFooterFront ⟨counter, false⟩ = (before ++ "\n".toList) ++
        '<' :: ("footer>Published with ".toList ++ (Html.generator ++ "</footer>\n")) := by
      rw [List.append_assoc]
      rfl
    rw [hsplit]
    exact hborder h (by decide)

/-- A footer gives its script back behind any text in which no opener stands. -/
theorem extractSource_htmlFooter (source : Chars) (s : State) {before : Chars}
    (h : Text.contains htmlOpener (before ++ "\n") = false) :
    extractSource (before ++ (Html.footer source s).1) = .ok source := by
  rw [append_htmlFooter, extractSource_htmlReport_iff]
  exact contains_htmlOpener_htmlFooterFront h s

/-- A script that is made of the lines around scripts and of references. -/
def markedSource : Chars :=
  "<!--\n##### SOURCE BEGIN #####\n&amp;lt;&#60;-->\n##### SOURCE END #####\n--&gt"

theorem extractSource_htmlFooter_markedSource :
    Text.contains htmlOpener ("<!--\n##### SOURCE BEGIN ####\n&notin;".toList ++ "\n") = false ∧
      extractSource ("<!--\n##### SOURCE BEGIN ####\n&notin;".toList ++
        (Html.footer markedSource { insideSection := true }).1) = .ok markedSource :=
  ⟨by decide, extractSource_htmlFooter markedSource _ (by decide)⟩

/-! ## Reports of documents -/

/-- What comes before the source comment of an HTML report. -/
def htmlFront (showCode : Bool) (doc : Script.Document) : Chars :=
  let body := renderBody Html.backEnd showCode doc.body {}
  Html.header doc.shownTitle (renderItems Html.backEnd doc.intro) doc.contents ++
    (body.1 ++ ((Html.closeSection body.2).1 ++
      ("\n<footer>Published with " ++ (Html.generator ++ "</footer>\n"))))

theorem renderBody_infix_htmlFront (showCode : Bool) (doc : Script.Document) :
    (renderBody Html.backEnd showCode doc.body {}).1 <:+: htmlFront showCode doc := by
  rw [htmlFront, ← List.append_assoc]
  exact List.infix_append _ _ _

/-- What comes before the comment environment of a LaTeX report. -/
def latexFront (showCode : Bool) (doc : Script.Document) : Chars :=
  Latex.header doc.shownTitle (renderItems Latex.backEnd doc.intro) doc.contents ++
    (renderBody Latex.backEnd showCode doc.body {}).1

theorem report_html (showCode : Bool) (doc : Script.Document) :
    report .html showCode doc = htmlReport (htmlFront showCode doc) doc.sourceText := by
  have hreport : report .html showCode doc =
      Html.header doc.shownTitle (renderItems Html.backEnd doc.intro) doc.contents ++
        (renderBody Html.backEnd showCode doc.body {}).1 ++
        (Html.footer doc.sourceText (renderBody Html.backEnd showCode doc.body {}).2).1 := rfl
  rw [hreport, append_htmlFooter, htmlFront, htmlFooterFront, List.append_assoc]

theorem report_latex (showCode : Bool) (doc : Script.Document) :
    report .latex showCode doc = latexReport (latexFront showCode doc) doc.sourceText :=
  (latexReport_eq _ _ {}).symm

end ScriptReport.Report
