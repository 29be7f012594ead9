import Exposure.Artifact.Document
import Exposure.Proofs.Source.TextualCheck

/-!
The lines of a written document. Behind the indentation each begins with a quote, a bracket, a
digit, a sign or one of the words for truth and nothing, so that none of them reads as the
declaration of a class.
-/
namespace Exposure

namespace Source.Outline

/-- Reads on in a text, with whether all of the line so far is blank: a line does not begin with the
letter of the word for classes, and there are no carriage returns. -/
def readPlain (atStart : Bool) (c : Char) : Option Bool :=
  if c = '\n' then some true
  else if c = '\r' ∨ atStart = true ∧ c = 'c' then none
  else some (atStart && (c = ' ' || c = '\t'))

/-- Reads a text that starts at the start of a line or inside one; tells where it ends. -/
def readsPlain (atStart : Bool) (s : List Char) : Option Bool := s.foldlM readPlain atStart

theorem readsPlain_nil (atStart : Bool) : readsPlain atStart [] = some atStart := rfl

theorem readsPlain_append (atStart : Bool) (s t : List Char) :
    readsPlain atStart (s ++ t) = (readsPlain atStart s).bind fun b => readsPlain b t :=
  List.foldlM_append

theorem readsPlain_cons (atStart : Bool) (c : Char) (s : List Char) :
    readsPlain atStart (c :: s) = (readPlain atStart c).bind fun b => readsPlain b s :=
  List.foldlM_cons

/-- A character that a line may begin with. -/
def isOrdinary (c : Char) : Bool := !(List.contains ['\n', '\r', ' ', '\t', 'c'] c)

/-- A character that a line may have further on. -/
def isInline (c : Char) : Bool := !(List.contains ['\n', '\r'] c)

theorem readPlain_of_ordinary {c : Char} (h : isOrdinary c = true) (atStart : Bool) :
    readPlain atStart c = some false := by
  simp only [isOrdinary, List.contains_cons, List.contains_nil, Bool.or_false, Bool.not_eq_true',
    Bool.or_eq_false_iff, beq_eq_false_iff_ne] at h
  obtain ⟨hline, hreturn, hblank, htab, hletter⟩ := h
  simp [readPlain, hline, hreturn, hblank, htab, hletter]

theorem isInline_iff {c : Char} : isInline c = true ↔ c ≠ '\n' ∧ c ≠ '\r' := by
  simp [isInline]

theorem readsPlain_inside {s : List Char} (h : ∀ c ∈ s, isInline c = true) :
    readsPlain false s = some false := by
  induction s with
  | nil => rfl
  | cons c s ih =>
      obtain ⟨hc, hs⟩ := List.forall_mem_cons.1 h
      obtain ⟨hline, hreturn⟩ := isInline_iff.1 hc
      have hc : readPlain false c = some false := by simp [readPlain, hline, hreturn]
      rw [readsPlain_cons, hc, Option.bind_some, ih hs]

/-- A word of ordinary characters may stand anywhere. -/
theorem readsPlain_word {s : List Char} (hne : s ≠ []) (h : ∀ c ∈ s, isOrdinary c = true)
    (atStart : Bool) : readsPlain atStart s = some false := by
  cases s with
  | nil => exact absurd rfl hne
  | cons c s =>
      obtain ⟨hc, hs⟩ := List.forall_mem_cons.1 h
      rw [readsPlain_cons, readPlain_of_ordinary hc, Option.bind_some]
      refine readsPlain_inside fun d hd => ?_
      have hd := hs d hd
      refine isInline_iff.2 ⟨?_, ?_⟩ <;> rintro rfl <;> cases hd

theorem readsPlain_blanks {s : List Char} (h : ∀ c ∈ s, c = ' ' ∨ c = '\t') :
    readsPlain true s = some true := by
  induction s with
  | nil => rfl
  | cons c s ih =>
      obtain ⟨hc, hs⟩ := List.forall_mem_cons.1 h
      rw [readsPlain_cons, show readPlain true c = some true by rcases hc with rfl | rfl <;> rfl,
        Option.bind_some, ih hs]

variable {atStart : Bool} {s : List Char}

end Source.Outline

namespace Json

open Source.Outline

theorem isOrdinary_of_isDigit {c : Char} (h : c.isDigit = true) : isOrdinary c = true := by
  simp only [isOrdinary, List.contains_cons, List.contains_nil, Bool.or_false, Bool.not_eq_true',
    Bool.or_eq_false_iff, beq_eq_false_iff_ne]
  refine ⟨?_, ?_, ?_, ?_, ?_⟩ <;> rintro rfl <;> cases h

theorem isOrdinary_of_mem_toDigits {n : Nat} {c : Char} (h : c ∈ Nat.toDigits 10 n) :
    isOrdinary c = true :=
  isOrdinary_of_isDigit (Nat.isDigit_of_mem_toDigits (by decide) (by decide) h)

theorem readsPlain_int (atStart : Bool) (n : Int) :
    readsPlain atStart (toString n).toList = some false := by
  cases n with
  | ofNat n =>
      have htext : (toString (Int.ofNat n)).toList = Nat.toDigits 10 n := String.toList_ofList
      rw [htext]
      exact readsPlain_word Nat.toDigits_ne_nil (fun c => isOrdinary_of_mem_toDigits) atStart
  | negSucc n =>
      have htext : (toString (Int.negSucc n)).toList = '-' :: Nat.toDigits 10 (n + 1) := by
        show ("-" ++ Nat.repr (n + 1)).toList = _
        rw [String.toList_append, Nat.repr, String.toList_ofList, String.toList_ofList]
        rfl
      rw [htext]
      refine readsPlain_word (List.cons_ne_nil _ _) (List.forall_mem_cons.2 ⟨rfl, ?_⟩) atStart
      exact fun c => isOrdinary_of_mem_toDigits

/-- A closed text is gone through. -/
theorem forall_of_all {test : Char → Bool} {s : List Char} (h : s.all test = true) :
    ∀ c ∈ s, test c = true := List.all_eq_true.1 h

section Float

variable {x : Double}

theorem isOrdinary_of_mem_shortest : ∀ c ∈ x.shortest.digits, isOrdinary c = true := by
  have htrimmed {n : Nat} {trimmed : List Char}
      (h : trimmed = ((Nat.toDigits 10 n).reverse.dropWhile (· = '0')).reverse) :
      ∀ c ∈ (if trimmed.isEmpty then ['0'] else trimmed), isOrdinary c = true := by
    split
    · exact forall_of_all rfl
    · intro c hc
      have hmem := (List.dropWhile_sublist _).subset (List.mem_reverse.1 (h ▸ hc))
      exact isOrdinary_of_mem_toDigits (List.mem_reverse.1 hmem)
  unfold Double.shortest
  split
  · exact forall_of_all rfl
  · exact htrimmed rfl

theorem isOrdinary_of_mem_format (style : FloatStyle) :
    ∀ c ∈ x.format style, isOrdinary c = true := by
  have hdigits := @isOrdinary_of_mem_shortest x
  have hsign : ∀ c ∈ (if x.negative then ['-'] else []), isOrdinary c = true := by
    split <;> exact forall_of_all rfl
  have hzeros (n : Nat) : ∀ c ∈ List.replicate n '0', isOrdinary c = true :=
    fun c hc => List.eq_of_mem_replicate hc ▸ rfl
  unfold Double.format
  cases hx : x.shortest with
  | mk digits point =>
      rw [hx] at hdigits
      dsimp only
      split
      · split
        · simp only [List.forall_mem_append]
          exact ⟨⟨⟨hsign, forall_of_all rfl⟩, hzeros _⟩, hdigits⟩
        · split
          · simp only [List.forall_mem_append]
            exact ⟨⟨⟨hsign, hdigits⟩, hzeros _⟩, forall_of_all rfl⟩
          · simp only [List.forall_mem_append]
            exact ⟨⟨⟨hsign, fun c hc => hdigits c (List.mem_of_mem_take hc)⟩, forall_of_all rfl⟩,
              fun c hc => hdigits c (List.mem_of_mem_drop hc)⟩
      · simp only [List.forall_mem_append]
        refine ⟨⟨⟨⟨⟨hsign, ?_⟩, forall_of_all rfl⟩, ?_⟩, hzeros _⟩,
          fun c => isOrdinary_of_mem_toDigits⟩
        · cases digits with
          | nil => exact forall_of_all rfl
          | cons d r =>
              obtain ⟨hd, hr⟩ := List.forall_mem_cons.1 hdigits
              dsimp only
              split
              · exact List.forall_mem_cons.2 ⟨hd, by simp⟩
              · exact List.forall_mem_cons.2 ⟨hd, List.forall_mem_cons.2 ⟨rfl, hr⟩⟩
        · split
          · exact forall_of_all rfl
          · split <;> exact forall_of_all rfl

theorem format_ne_nil (style : FloatStyle) : x.format style ≠ [] := by
  unfold Double.format
  dsimp only
  split
  · split
    · simp only [ne_eq, List.append_eq_nil_iff, List.cons_ne_nil, and_false, false_and,
        not_false_eq_true]
    · split <;> simp only [ne_eq, List.append_eq_nil_iff, List.cons_ne_nil, and_false, false_and,
        not_false_eq_true]
  · simp only [ne_eq, List.append_eq_nil_iff, List.cons_ne_nil, and_false, false_and,
      not_false_eq_true]

end Float

theorem readsPlain_float (atStart : Bool) (style : FloatStyle) (x : Double) :
    readsPlain atStart (x.format style) = some false :=
  readsPlain_word (format_ne_nil style) (isOrdinary_of_mem_format style) atStart

theorem isInline_of_mem_escapeChar (c : Char) : ∀ d ∈ escapeChar c, isInline d = true := by
  have hcode : ∀ n < 32, ('\\' :: 'u' :: Text.hexDigits 4 n).all isInline = true := by decide
  by_cases hcontrol : c.toNat < 32
  · unfold escapeChar
    repeat' split
    all_goals first | exact forall_of_all rfl | exact forall_of_all (hcode _ hcontrol)
  · have hc : isInline c = true := by
      refine isInline_iff.2 ⟨?_, ?_⟩ <;> rintro rfl <;> exact hcontrol (by decide)
    unfold escapeChar
    repeat' split
    all_goals first | exact forall_of_all rfl | simpa using hc

theorem readsPlain_string (atStart : Bool) (s : String) :
    readsPlain atStart (writeString s) = some false := by
  rw [writeString, List.cons_append, readsPlain_cons,
    readPlain_of_ordinary (show isOrdinary '"' = true from rfl), Option.bind_some]
  refine readsPlain_inside fun c hc => ?_
  rw [List.mem_append, List.mem_flatMap, List.mem_singleton] at hc
  cases hc with
  | inl hinner =>
      obtain ⟨d, -, hd⟩ := hinner
      exact isInline_of_mem_escapeChar d c hd
  | inr hquote =>
      rw [hquote]
      rfl

theorem readPlain_colon : readPlain false ':' = some false := rfl

theorem readPlain_blank : readPlain false ' ' = some false := rfl

theorem readsPlain_lineBreak (atStart : Bool) (depth : Nat) :
    readsPlain atStart (lineBreak depth) = some true := by
  rw [lineBreak, readsPlain_cons]
  exact readsPlain_blanks fun c hc => .inl (List.eq_of_mem_replicate hc)

mutual

theorem readsPlain_write (depth : Nat) : ∀ (v : Json) (atStart : Bool),
    readsPlain atStart (write depth v) = some false
  | .null, atStart => by cases atStart <;> rfl
  | .bool b, atStart => by
      cases b <;> cases atStart <;> rfl
  | .int n, atStart => readsPlain_int atStart n
  | .float x, atStart => readsPlain_float atStart _ x
  | .string s, atStart => readsPlain_string atStart s
  | .array [], atStart => by cases atStart <;> rfl
  | .array (v :: vs), atStart => by
      simp only [write, List.cons_append, readsPlain_cons, readsPlain_append, readsPlain_nil,
        readPlain_of_ordinary (show isOrdinary '[' = true from rfl),
        readPlain_of_ordinary (show isOrdinary ']' = true from rfl), Option.bind_some,
        readsPlain_lineBreak, readsPlain_write (depth + 1) v, readsPlain_writeItems (depth + 1) vs]
  | .object [], atStart => by cases atStart <;> rfl
  | .object ((k, v) :: ms), atStart => by
      simp only [write, List.cons_append, readsPlain_cons, readsPlain_append, readsPlain_nil,
        readPlain_of_ordinary (show isOrdinary '\x7b' = true from rfl),
        readPlain_of_ordinary (show isOrdinary '\x7d' = true from rfl), Option.bind_some,
        readsPlain_lineBreak, readsPlain_string, readPlain_colon, readPlain_blank,
        readsPlain_write (depth + 1) v, readsPlain_writeMembers (depth + 1) ms]

theorem readsPlain_writeItems (depth : Nat) : ∀ vs : List Json,
    readsPlain false (writeItems depth vs) = some false
  | [] => rfl
  | v :: vs => by
      simp only [writeItems, List.cons_append, readsPlain_cons, readsPlain_append,
        readPlain_of_ordinary (show isOrdinary ',' = true from rfl), Option.bind_some,
        readsPlain_lineBreak, readsPlain_write depth v, readsPlain_writeItems depth vs]

theorem readsPlain_writeMembers (depth : Nat) : ∀ ms : List (String × Json),
    readsPlain false (writeMembers depth ms) = some false
  | [] => rfl
  | (k, v) :: ms => by
      simp only [writeMembers, List.cons_append, readsPlain_cons, readsPlain_append, readsPlain_nil,
        readPlain_of_ordinary (show isOrdinary ',' = true from rfl), Option.bind_some,
        readsPlain_lineBreak, readsPlain_string, readPlain_colon, readPlain_blank,
        readsPlain_write depth v, readsPlain_writeMembers depth ms]

end

end Json

end Exposure
