/-!
# Texts as characters

Rules on texts are stated on lists of characters; `onChars` applies such a rule to a string.
-/
namespace ResolverGen.Text

def onChars (f : List Char → List Char) (s : String) : String := String.ofList (f s.toList)

@[simp] theorem toList_onChars (f : List Char → List Char) (s : String) :
    (onChars f s).toList = f s.toList := by
  simp [onChars]

theorem onChars_onChars (f g : List Char → List Char) (s : String) :
    onChars f (onChars g s) = onChars (f ∘ g) s := by
  simp [onChars]

end ResolverGen.Text
