import BuildWatch.Text.Letters

namespace BuildWatch.Address

def isPlain (c : Char) : Bool :=
  c.isAlphanum || "!$&'()*+,-.:;=@[]_~".toList.contains c

structure AuthorityView where
  colons : Nat := 0
  isOpened : Bool := false
  isClosed : Bool := false
  hasPercent : Bool := false
  endsInAt : Bool := false

def AuthorityView.see? (view : AuthorityView) (c : Char) : Option AuthorityView :=
  let view := { view with endsInAt := c == '@' }
  if c = ':' then if 8 ≤ view.colons then none else some { view with colons := view.colons + 1 }
  else if c = '[' then
    if view.hasPercent || view.isOpened then none else some { view with isOpened := true }
  else if c = ']' then
    if !view.isOpened || view.isClosed then none
    else some { view with isClosed := true, colons := 0, hasPercent := false }
  else if c = '@' then some { view with colons := 0, hasPercent := false }
  else if c = '%' then some { view with hasPercent := true }
  else if isPlain c then some view
  else none

def isAuthority (text : List Char) : Bool :=
  match text.foldlM AuthorityView.see? {} with
  | none => false
  | some view =>
    !text.isEmpty && view.isOpened == view.isClosed && view.colons ≤ 1 && !view.hasPercent &&
      !view.endsInAt

def isVisible (c : Char) : Bool :=
  0x20 < c.toNat && c.toNat ≠ 0x7F

def isPathChar (c : Char) : Bool :=
  isVisible c && !"#<>?`".toList.contains c

def isQueryChar (c : Char) : Bool :=
  isVisible c && !"\"#<>".toList.contains c

def hasHost (authority : List Char) : Bool :=
  !((authority.reverse.takeWhile (· != '@')).isEmpty)

def isTarget (address : String) : Bool :=
  match Text.cutAt ':' address.toList with
  | (scheme, some ('/' :: '/' :: rest)) =>
    let isEnd (c : Char) : Bool := c == '/' || c == '?' || c == '#'
    let authority := rest.takeWhile fun c => !isEnd c
    let (text, _) := Text.cutAt '#' (rest.dropWhile fun c => !isEnd c)
    let (path, query) := Text.cutAt '?' text
    !scheme.isEmpty && scheme.all (fun c => c.isAlphanum || "+-.".toList.contains c) &&
      isAuthority authority && hasHost authority && path.all isPathChar &&
      (query.getD []).all isQueryChar
  | _ => false

end BuildWatch.Address
