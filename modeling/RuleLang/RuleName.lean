/-!
# Names of rules

A rule is kept under a name or under a number. The two never meet: the numbers are what the
actions of an input are kept under, and no name that a user chooses is one of them. In a listing
all names come first, in text order, and then the numbers.
-/

set_option autoImplicit false

namespace RuleLang

/-- What a rule, or an input with actions, is called. -/
inductive RuleName where
  | name (text : String)
  | id (number : Int)
deriving DecidableEq, Repr

namespace RuleName

/-- A number is shown with a number sign in front. -/
def display : RuleName → String
  | name text => text
  | id number => "#" ++ toString number

/-- Names in text order, then numbers in their order. -/
def order : RuleName → RuleName → Ordering
  | name a, name b => compare a b
  | name _, id _ => .lt
  | id _, name _ => .gt
  | id a, id b => compare a b

instance : Ord RuleName := ⟨order⟩

instance : Std.OrientedOrd RuleName where
  eq_swap {a b} :=
    match a, b with
    | name a, name b => show compare a b = (compare b a).swap from Std.OrientedOrd.eq_swap
    | name _, id _ => rfl
    | id _, name _ => rfl
    | id a, id b => show compare a b = (compare b a).swap from Std.OrientedOrd.eq_swap

instance : Std.TransOrd RuleName where
  isLE_trans {a b c} hab hbc :=
    match a, b, c, hab, hbc with
    | name a, name b, name c, hab, hbc =>
      have hab : (compare a b).isLE := hab
      have hbc : (compare b c).isLE := hbc
      show (compare a c).isLE from Std.TransOrd.isLE_trans hab hbc
    | name _, _, id _, _, _ => rfl
    | _, id _, name _, _, hbc => absurd (show false = true from hbc) Bool.false_ne_true
    | id _, name _, _, hab, _ => absurd (show false = true from hab) Bool.false_ne_true
    | id a, id b, id c, hab, hbc =>
      have hab : (compare a b).isLE := hab
      have hbc : (compare b c).isLE := hbc
      show (compare a c).isLE from Std.TransOrd.isLE_trans hab hbc

instance : Std.LawfulEqOrd RuleName where
  compare_self {a} :=
    match a with
    | name a => show compare a a = .eq from Std.ReflOrd.compare_self
    | id a => show compare a a = .eq from Std.ReflOrd.compare_self
  eq_of_compare {a b} h :=
    match a, b, h with
    | name a, name b, h =>
      have h : compare a b = .eq := h
      congrArg name (Std.LawfulEqOrd.eq_of_compare h)
    | name _, id _, h => Ordering.noConfusion (show Ordering.lt = .eq from h)
    | id _, name _, h => Ordering.noConfusion (show Ordering.gt = .eq from h)
    | id a, id b, h =>
      have h : compare a b = .eq := h
      congrArg id (Std.LawfulEqOrd.eq_of_compare h)

end RuleName

end RuleLang
