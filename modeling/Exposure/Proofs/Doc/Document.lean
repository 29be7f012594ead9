import Exposure.Proofs.Doc.Quote
import Exposure.Proofs.Doc.Reading

/-!
Documents that are put together from lines. Their tags are read back in order, and two texts can be
read one after the other.
-/
namespace Exposure.Doc

open Text (isBlank)

/-- A tag on a line of its own: behind blanks and at most one star `@` and a name, then a space or a
tab and a value in quotes. -/
structure WrittenTag where
  indent : List Char
  star : Bool
  inner : List Char
  first : Char
  others : List Char
  gap : Char
  quote : Char
  value : List Char
  indent_blank : ∀ c ∈ indent, isBlank c = true
  inner_blank : ∀ c ∈ inner, isBlank c = true
  first_starts : startsName first = true
  others_continue : ∀ c ∈ others, continuesName c = true
  gap_isGap : isGap gap = true
  quote_isQuote : IsQuote quote
  value_inline : '\n' ∉ value

namespace WrittenTag

def name (t : WrittenTag) : List Char := t.first :: t.others

/-- What stands behind the name. -/
def rest (t : WrittenTag) : List Char := t.gap :: t.quote :: (t.value ++ [t.quote])

def text (t : WrittenTag) : List Char :=
  t.indent ++ ((if t.star then ['*'] else []) ++ (t.inner ++ '@' :: (t.name ++ t.rest)))

def tag (t : WrittenTag) : Tag := (String.ofList (Text.lower t.name), String.ofList t.value)

variable (t : WrittenTag)

theorem quote_ne_newline : t.quote ≠ '\n' := by
  rcases t.quote_isQuote with h | h <;> simp [h]

theorem isGap_quote : isGap t.quote = false := by
  rcases t.quote_isQuote with h | h <;> simp [h] <;> decide

theorem isBlank_quote : isBlank t.quote = false := by
  rcases t.quote_isQuote with h | h <;> simp [h] <;> decide

theorem gap_ne_newline : t.gap ≠ '\n' := of_decide_eq_true (not_newline_of_isGap _ t.gap_isGap)

theorem continuesName_gap : continuesName t.gap = false := by
  have hgap : t.gap = ' ' ∨ t.gap = '\t' := by simpa [isGap] using t.gap_isGap
  rcases hgap with h | h <;> rw [h] <;> decide +kernel

theorem tagStart_text : tagStart t.text = '@' :: (t.name ++ t.rest) := by
  have hinner : (t.inner ++ '@' :: (t.name ++ t.rest)).dropWhile isBlank =
      '@' :: (t.name ++ t.rest) :=
    Text.dropWhile_append_stop t.inner_blank (by rintro _ ⟨⟩; decide)
  cases hstar : t.star with
  | true =>
      have htext : t.text.dropWhile isBlank = '*' :: (t.inner ++ '@' :: (t.name ++ t.rest)) := by
        rw [text, hstar]
        exact Text.dropWhile_append_stop t.indent_blank (by rintro _ ⟨⟩; decide)
      rw [tagStart_of_star htext, hinner]
  | false =>
      have htext : t.text.dropWhile isBlank = '@' :: (t.name ++ t.rest) := by
        rw [text, hstar, List.dropWhile_append_of_pos t.indent_blank]
        exact hinner
      have hne : ∀ r, t.text.dropWhile isBlank ≠ '*' :: r := fun r hr => by
        cases htext.symm.trans hr
      rw [tagStart_of_ne hne, htext]

theorem tagParts?_text : tagParts? t.text = some (t.name, t.rest) := by
  have hstop : ∀ c, t.rest.head? = some c → continuesName c = false := by
    rintro _ ⟨⟩
    exact t.continuesName_gap
  rw [tagParts?, tagStart_text]
  change tagName? (t.first :: (t.others ++ t.rest)) = _
  rw [tagName?, if_pos t.first_starts, Text.takeWhile_append_stop t.others_continue hstop,
    Text.dropWhile_append_stop t.others_continue hstop]
  rfl

theorem newline_notMem_rest : '\n' ∉ t.rest := by
  simp [rest, t.gap_ne_newline.symm, t.quote_ne_newline.symm, t.value_inline]

theorem tagValue_rest : tagValue t.rest = t.quote :: (t.value ++ [t.quote]) := by
  have hquoted : t.rest.dropWhile isGap = t.quote :: (t.value ++ [t.quote]) := by
    rw [rest, List.dropWhile_cons_of_pos t.gap_isGap]
    exact List.dropWhile_cons_of_neg (by simp [t.isGap_quote])
  have hline : '\n' ∉ t.quote :: (t.value ++ [t.quote]) := fun h =>
    t.newline_notMem_rest (List.mem_cons_of_mem _ h)
  rw [tagValue, hquoted, Text.firstLine_of_notMem hline, trimEnd]
  simp [t.isBlank_quote]

theorem linesTags_text : linesTags t.text = [t.tag] := by
  have hfurther : furtherTags t.rest = [] := by
    have hall := furtherTags_append t.newline_notMem_rest []
    rwa [List.append_nil] at hall
  rw [linesTags_of_tagParts? t.tagParts?_text, hfurther, tagOfParts, tagValue_rest,
    unquote_quoted t.quote_isQuote t.value_inline]
  rfl

end WrittenTag

/-- A line of a document. Lines without an `@` may stand anywhere. -/
inductive DocLine where
  | tag (written : WrittenTag)
  | other (text : List Char) (plain : '@' ∉ text)

namespace DocLine

def text : DocLine → List Char
  | tag t => t.text
  | other s _ => s

def tag? : DocLine → Option Tag
  | tag t => some t.tag
  | other _ _ => none

/-- The document with the given lines. -/
def document (lines : List DocLine) : String :=
  String.ofList (Text.joinWith ['\n'] (lines.map text))

end DocLine

theorem mem_of_mem_tagStart {s : List Char} {c : Char} (h : c ∈ tagStart s) : c ∈ s := by
  have hdrop (t : List Char) : ∀ d ∈ t.dropWhile isBlank, d ∈ t :=
    fun d hd => (List.dropWhile_sublist _).subset hd
  unfold tagStart at h
  split at h
  · rename_i r hr
    exact hdrop s c (hr ▸ List.mem_cons_of_mem _ (hdrop r c h))
  · exact hdrop s c h

theorem linesTags_of_notMem {s : List Char} (h : '@' ∉ s) : linesTags s = [] := by
  rw [linesTags, List.filterMap_eq_nil_iff]
  intro line hline
  rw [lineTag?, Option.map_eq_none_iff, tagParts?]
  split
  · rename_i r hr
    have hmem : '@' ∈ line := mem_of_mem_tagStart (hr ▸ List.mem_cons_self)
    exact absurd (Text.mem_of_mem_splitAt hline hmem) h
  · rfl

theorem linesTags_line (l : DocLine) : linesTags l.text = l.tag?.toList := by
  cases l with
  | tag t => exact t.linesTags_text
  | other s h => exact linesTags_of_notMem h

theorem linesTags_document (lines : List DocLine) :
    linesTags (Text.joinWith ['\n'] (lines.map DocLine.text)) =
      lines.filterMap DocLine.tag? := by
  induction lines with
  | nil => decide
  | cons l ls ih =>
      have hcons : (l :: ls).filterMap DocLine.tag? =
          linesTags l.text ++ ls.filterMap DocLine.tag? := by
        rw [linesTags_line, List.filterMap_cons]
        cases l.tag? <;> rfl
      cases ls with
      | nil => rw [hcons, ← ih]; exact (List.append_nil _).symm
      | cons l' ls =>
          rw [hcons, ← ih, ← linesTags_append]
          simp [Text.joinWith]

theorem tags_append (a b : String) : tags (a ++ "\n" ++ b) = tags a ++ tags b := by
  have htext : (a ++ "\n" ++ b).toList = a.toList ++ '\n' :: b.toList := by simp
  rw [tags_eq, tags_eq, tags_eq, htext, linesTags_append]

theorem tags_read_by_line :
    (∀ a b : String, tags (a ++ "\n" ++ b) = tags a ++ tags b) ∧
      (∀ (names : List String) (a b : String),
        tagsNamed names (a ++ "\n" ++ b) = tagsNamed names a ++ tagsNamed names b) ∧
      ∀ lines : List DocLine, tags (DocLine.document lines) = lines.filterMap DocLine.tag? := by
  refine ⟨tags_append, fun names a b => ?_, fun lines => ?_⟩
  · rw [tagsNamed, tags_append, List.filter_append]
    rfl
  · rw [tags_eq, DocLine.document, String.toList_ofList, linesTags_document]

/-- A tag behind a star, with quotes and a blank in its value. -/
def starredTag : WrittenTag where
  indent := [' ']
  star := true
  inner := [' ']
  first := 'D'
  others := ['i', 's', 'p', 'l', 'a', 'y']
  gap := ' '
  quote := '\''
  value := ['"', 'L', 'o', 'g', '"', ' ', '\'', 's', ' ']
  indent_blank := List.all_eq_true.1 rfl
  inner_blank := List.all_eq_true.1 rfl
  first_starts := by decide
  others_continue := List.all_eq_true.1 (by decide)
  gap_isGap := by decide
  quote_isQuote := .inr rfl
  value_inline := by decide

theorem tags_read_by_line_starred :
    tags "Writes it.\n * @Display '\"Log\" 's '\n *" = [("display", "\"Log\" 's ")] ∧
    tags ("@purpose LOG" ++ "\n" ++ "Writes it.\n * @Display '\"Log\" 's '\n *") =
      tags "@purpose LOG" ++ [("display", "\"Log\" 's ")] := by
  let lines : List DocLine :=
    [.other "Writes it.".toList (by decide), .tag starredTag, .other [' ', '*'] (by decide)]
  have hdocument : DocLine.document lines = "Writes it.\n * @Display '\"Log\" 's '\n *" := by
    decide
  have htag : lines.filterMap DocLine.tag? = [("display", "\"Log\" 's ")] := by decide
  obtain ⟨happend, -, hread⟩ := tags_read_by_line
  have htags := (hread lines).trans htag
  rw [hdocument] at htags
  exact ⟨htags, (happend _ _).trans (congrArg _ htags)⟩

end Exposure.Doc
