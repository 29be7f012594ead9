import Exposure.Proofs.Text.Split
import Exposure.Proofs.Text.Upper
import Exposure.Purpose.Tree

/-!
What the tokens of tags and patterns are like, and the written path of an address. Addresses of
proper tokens can be told from their paths.
-/
namespace Exposure.Purpose

/-- A token that can stand in an address: it has text and no dot. -/
def IsName (token : String) : Prop := token ≠ "" ∧ '.' ∉ token.toList

def pathOf (address : List String) : String := Text.joinStrings "." address

theorem tokens_ne_nil (pattern : String) : tokens pattern ≠ [] := by
  simpa [tokens, Text.splitString] using Text.splitAt_ne_nil '.' _

theorem dot_notMem_of_mem_tokens {tag token : String} (h : token ∈ tokens tag) :
    '.' ∉ token.toList := by
  obtain ⟨part, hpart, rfl⟩ := List.mem_map.1 h
  rw [String.toList_ofList]
  exact Text.sep_notMem_of_mem_splitAt hpart

theorem mem_upper_of_mem_tokens {tag token : String} (h : token ∈ tokens tag) {c : Char}
    (hc : c ∈ token.toList) : c ∈ Text.upper tag.toList := by
  obtain ⟨part, hpart, rfl⟩ := List.mem_map.1 h
  rw [String.toList_ofList] at hc
  simpa [Text.upperString] using Text.mem_of_mem_splitAt hpart hc

theorem upperString_of_mem_tokens {tag token : String} (h : token ∈ tokens tag) :
    Text.upperString token = token := by
  rw [Text.upperString, Text.upper_eq_self fun c => mem_upper_of_mem_tokens h,
    String.ofList_toList]

theorem mem_tokens_of_mem_address {tag token : String} (h : token ∈ address tag) :
    token ∈ tokens (String.ofList (Text.strip tag.toList)) :=
  (List.mem_filter.1 h).1

theorem isName_of_mem_address {tag token : String} (h : token ∈ address tag) : IsName token :=
  ⟨by simpa using (List.mem_filter.1 h).2,
    dot_notMem_of_mem_tokens (mem_tokens_of_mem_address h)⟩

theorem upperString_of_mem_address {tag token : String} (h : token ∈ address tag) :
    Text.upperString token = token :=
  upperString_of_mem_tokens (mem_tokens_of_mem_address h)

theorem pathOf_inj {p q : List String} (hp : p ≠ []) (hq : q ≠ [])
    (hps : ∀ t ∈ p, IsName t) (hqs : ∀ t ∈ q, IsName t) (h : pathOf p = pathOf q) : p = q :=
  Text.joinStrings_inj '.' hp hq (fun t ht => (hps t ht).2) (fun t ht => (hqs t ht).2) h

/-- A path written from an address is cut into the tokens of the address again. -/
theorem tokens_pathOf_address {tag : String} (h : address tag ≠ []) :
    tokens (pathOf (address tag)) = address tag := by
  have hupper : Text.upperString (pathOf (address tag)) = pathOf (address tag) := by
    -- Its characters are dots and characters of uppercase text.
    have hchars : ∀ c ∈ (pathOf (address tag)).toList,
        c ∈ Text.upper (Text.strip tag.toList ++ ['.']) := by
      intro c hc
      rw [pathOf, Text.joinStrings, String.toList_ofList] at hc
      rw [Text.upper_append, List.mem_append]
      obtain hdot | ⟨part, hpart, hmem⟩ := Text.mem_of_mem_joinWith hc
      · obtain rfl : c = '.' := List.mem_singleton.1 hdot
        exact .inr (by decide)
      · obtain ⟨token, htoken, rfl⟩ := List.mem_map.1 hpart
        refine .inl ?_
        simpa using mem_upper_of_mem_tokens (mem_tokens_of_mem_address htoken) hmem
    rw [Text.upperString, Text.upper_eq_self hchars, String.ofList_toList]
  rw [tokens, hupper]
  exact Text.splitString_joinStrings h fun t ht => (isName_of_mem_address ht).2

theorem pathOf_cons_cons (s t : String) (p : List String) :
    pathOf (s :: t :: p) = pathOf ((s ++ "." ++ t) :: p) := by
  cases p <;> simp [pathOf, Text.joinStrings, Text.joinWith]

theorem foldl_extendPath {path : String} (hpath : path ≠ "") (p : List String) :
    p.foldl extendPath path = pathOf (path :: p) := by
  induction p generalizing path with
  | nil => simp [pathOf, Text.joinStrings, Text.joinWith]
  | cons t p ih =>
      have hne : path ++ "." ++ t ≠ "" := by
        intro h
        have := congrArg String.toList h
        simp at this
      rw [List.foldl_cons, extendPath, if_neg hpath, ih hne, pathOf_cons_cons]

theorem foldl_extendPath_empty {p : List String} (hp : p ≠ []) (hps : ∀ t ∈ p, t ≠ "") :
    p.foldl extendPath "" = pathOf p := by
  cases p with
  | nil => exact absurd rfl hp
  | cons t p =>
      rw [List.foldl_cons, extendPath, if_pos rfl, foldl_extendPath (hps t (by simp))]

end Exposure.Purpose
