import LiveChat.Text.Ascii

/-!
# Who may connect

A browser says on whose behalf it connects. The operator lists the origins that may; an empty list
and a star admit everyone, and whoever names no origin is no browser and is admitted too.
-/

namespace LiveChat.Serve

open LiveChat.Text

def withoutSlashes (text : String) : String :=
  String.ofList (text.toList.reverse.dropWhile (· = '/')).reverse

def originAllowed (allowed : List String) (origin : Option String) : Bool :=
  allowed.isEmpty || allowed.contains "*" ||
    match origin with
    | none => true
    | some origin =>
        allowed.any fun entry => sameIgnoringCase (withoutSlashes entry) (withoutSlashes origin)

/-- Blanks and tabs, which count for nothing at the ends of a header's value. -/
def isHeaderBlank (char : Char) : Bool := char = ' ' || char = '\t'

/-- The origin in a header. One with characters beyond printable ASCII counts as none. -/
def originOfHeader? (value : String) : Option String :=
  let origin :=
    ((value.toList.dropWhile isHeaderBlank).reverse.dropWhile isHeaderBlank).reverse
  if origin.all fun char => char = '\t' || (32 ≤ char.toNat && char.toNat < 127) then
    some (String.ofList origin)
  else none

end LiveChat.Serve
