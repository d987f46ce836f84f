/-
Types and their methods.

A prefix that selects a type is meant to select its methods too: the name of a
method begins with its return type, and behind the first blank stands the name of
the type.  What decides is what is compared of the two names (`compared`); a prefix
that selects the type selects the method if the one begins the other (`takes`).

For names without blanks that is so, except where a sigma ends the type's name
(`compared_isPrefix_iff`).  A blank in the return type or in the type's own name
moves what is compared away from that name, and then the type's own name as a prefix
may leave the method out (`peek_left_out`).
-/
import BranchCoverage.Module.Basic
import BranchCoverage.Proofs.Selection.Matcher
import BranchCoverage.Proofs.Text.Lowercase

namespace BranchCoverage

namespace Matcher

/-! ### What is compared -/

/-- What is compared of a name: all behind its first blank, in lower case. -/
def compared (name : String) : List Char :=
  Text.lower (subject name.toList)

theorem subject_of_notMem {name : List Char} (h : ' ' ∉ name) : subject name = name := by
  have hskip : name.dropWhile (· ≠ ' ') = [] :=
    List.dropWhile_eq_nil_iff.mpr fun c hc => decide_eq_true fun heq => h (heq ▸ hc)
  rw [subject, hskip]

theorem subject_append {first : List Char} (h : ' ' ∉ first) (rest : List Char) :
    subject (first ++ ' ' :: rest) = rest := by
  have hskip : first.dropWhile (· ≠ ' ') = [] :=
    List.dropWhile_eq_nil_iff.mpr fun c hc => decide_eq_true fun heq => h (heq ▸ hc)
  rw [subject, List.dropWhile_append, hskip]
  rfl

/-- Without exclusions a name is selected if no prefix counts, or one of them
begins what is compared of the name. -/
theorem accepts_iff {included : List String} {name : String} :
    (ofPrefixes included []).accepts name = true ↔
      (∀ p ∈ included, Blank p) ∨ ∃ p ∈ included, ¬ Blank p ∧ normalize p <+: compared name := by
  have hexcludes : (ofPrefixes included []).excludes name = false := rfl
  have hall : (ofPrefixes included []).included = [] ↔ ∀ p ∈ included, Blank p := by
    simp [ofPrefixes, List.filter_eq_nil_iff, normalize_eq_nil_iff]
  have hany : hasPrefix (ofPrefixes included []).included (compared name) = true ↔
      ∃ p ∈ included, ¬ Blank p ∧ normalize p <+: compared name := by
    simp [hasPrefix, ofPrefixes, normalize_eq_nil_iff]
  rw [accepts, hexcludes, Bool.not_false, Bool.true_and, Bool.or_eq_true, List.isEmpty_iff, hall]
  exact or_congr_right hany

end Matcher

open Matcher (compared)

/-! ### The name of a method -/

/-- What stands behind the type's name in the name of a method. -/
def MethodDef.signature (d : MethodDef) : String :=
  "::" ++ d.name ++ "(" ++ String.intercalate "," d.parameters ++ ")"

namespace TypeDef

variable {t : TypeDef} {d : MethodDef}

theorem toList_methodName (t : TypeDef) (d : MethodDef) :
    (t.methodName d).toList =
      d.returnType.toList ++ ' ' :: (t.fullName.toList ++ d.signature.toList) := by
  simp [methodName, MethodDef.signature]

/-- Every list of prefixes that selects the type selects the method. -/
def Takes (t : TypeDef) (d : MethodDef) : Prop :=
  ∀ included, (Matcher.ofPrefixes included []).accepts t.fullName = true →
    (Matcher.ofPrefixes included []).accepts (t.methodName d) = true

theorem takes_of_isPrefix (h : compared t.fullName <+: compared (t.methodName d)) : t.Takes d := by
  intro included hselect
  rw [Matcher.accepts_iff] at hselect ⊢
  rcases hselect with hblank | ⟨p, hp, hcounts, hprefix⟩
  · exact .inl hblank
  · exact .inr ⟨p, hp, hcounts, hprefix.trans h⟩

/-- The name of the type is itself a prefix that selects the type. -/
theorem isPrefix_of_takes
    (htrim : Text.trimmed (Matcher.subject t.fullName.toList) = Matcher.subject t.fullName.toList)
    (h : t.Takes d) : compared t.fullName <+: compared (t.methodName d) := by
  let own := String.ofList (Matcher.subject t.fullName.toList)
  have hown : Matcher.normalize own = compared t.fullName := by
    rw [Matcher.normalize, String.toList_ofList, htrim]
    rfl
  by_cases hblank : Blank own
  · rw [← hown, Matcher.normalize_eq_nil_iff.mpr hblank]
    exact List.nil_prefix
  · have hselect := h [own] (Matcher.accepts_iff.mpr
      (.inr ⟨own, List.mem_singleton_self own, hblank, hown ▸ List.prefix_rfl⟩))
    rcases Matcher.accepts_iff.mp hselect with hall | ⟨p, hp, -, hprefix⟩
    · exact absurd (hall own (List.mem_singleton_self own)) hblank
    · obtain rfl := List.mem_singleton.mp hp
      exact hown ▸ hprefix

/-! ### Types that take their methods -/

/-- When the prefixes that select a type select one of its methods. -/
structure Selection (t : TypeDef) (d : MethodDef) : Prop where
  /-- They do if what is compared of the type's name begins what is compared of the
  method's. -/
  takes : compared t.fullName <+: compared (t.methodName d) → t.Takes d
  /-- That is also needed, unless white space at the ends of the type's name keeps
  the name from being a prefix. -/
  needed : Text.trimmed (Matcher.subject t.fullName.toList) = Matcher.subject t.fullName.toList →
    t.Takes d → compared t.fullName <+: compared (t.methodName d)
  /-- Without blanks, only a sigma at the end of the type's name is in the way. -/
  plain_iff : ' ' ∉ d.returnType.toList → ' ' ∉ t.fullName.toList →
    (compared t.fullName <+: compared (t.methodName d) ↔
      ¬ Text.Reopens [] t.fullName.toList d.signature.toList)
  /-- So without one the prefixes that select the type select the method. -/
  plain : ' ' ∉ d.returnType.toList → ' ' ∉ t.fullName.toList → 'Σ' ∉ t.fullName.toList → t.Takes d
  /-- A blank in the return type: its end stands before the type's name. -/
  return_blank : ∀ first rest, d.returnType.toList = first ++ ' ' :: rest → ' ' ∉ first →
    compared (t.methodName d) =
      Text.lower (rest ++ ' ' :: (t.fullName.toList ++ d.signature.toList))
  /-- A blank in the type's name: the name is compared from behind it, but in the
  method's name it stands whole. -/
  name_blank : ∀ first rest, t.fullName.toList = first ++ ' ' :: rest → ' ' ∉ first →
    ' ' ∉ d.returnType.toList →
    compared t.fullName = Text.lower rest ∧
      compared (t.methodName d) = Text.lower (first ++ ' ' :: (rest ++ d.signature.toList))

theorem compared_methodName (h : ' ' ∉ d.returnType.toList) :
    compared (t.methodName d) = Text.lower (t.fullName.toList ++ d.signature.toList) := by
  rw [compared, toList_methodName, Matcher.subject_append h]

/-- Without blanks, the names of the type and of the method are compared as they are. -/
theorem compared_isPrefix_iff (hreturn : ' ' ∉ d.returnType.toList)
    (hname : ' ' ∉ t.fullName.toList) :
    compared t.fullName <+: compared (t.methodName d) ↔
      ¬ Text.Reopens [] t.fullName.toList d.signature.toList := by
  rw [compared_methodName hreturn, compared, Matcher.subject_of_notMem hname]
  exact Text.lower_isPrefix_iff _ _

/-- **When a type is selected with its methods**, for all names, return types and
parameters. -/
theorem selection (t : TypeDef) (d : MethodDef) : t.Selection d where
  takes := takes_of_isPrefix
  needed := isPrefix_of_takes
  plain_iff := compared_isPrefix_iff
  plain hreturn hname hsigma := by
    refine takes_of_isPrefix ((compared_isPrefix_iff hreturn hname).mpr fun hreopens => ?_)
    obtain ⟨word, rest, heq, -⟩ := hreopens
    exact hsigma (heq ▸ List.mem_append_right word List.mem_cons_self)
  return_blank first rest hreturn hfirst := by
    rw [compared, toList_methodName, hreturn, List.append_assoc, List.cons_append,
      Matcher.subject_append hfirst]
  name_blank first rest hname hfirst hreturn := by
    refine ⟨?_, ?_⟩
    · rw [compared, hname, Matcher.subject_append hfirst]
    · rw [compared_methodName hreturn, hname, List.append_assoc, List.cons_append]

/-- A return type with a blank, and a name that ends in a sigma. -/
theorem peek_left_out :
    let peek : MethodDef :=
      ⟨"Peek", "System.Int32& modreq(System.Runtime.InteropServices.InAttribute)", [], true, .il,
        none⟩
    let run : MethodDef := ⟨"Run", "System.Void", [], true, .il, none⟩
    ¬ TypeDef.Takes { space := "Acme", name := "Parser", methods := [peek] } peek ∧
      ¬ TypeDef.Takes { space := "Ακμή", name := "ΛΟΓΟΣ", methods := [run] } run := by
  intro peek run
  refine ⟨fun h => ?_, fun h => ?_⟩
  · exact absurd (h ["Acme.Parser"] (by decide +kernel)) (by decide +kernel)
  · exact absurd (h ["Ακμή.ΛΟΓΟΣ"] (by decide +kernel)) (by decide +kernel)

end TypeDef

end BranchCoverage
