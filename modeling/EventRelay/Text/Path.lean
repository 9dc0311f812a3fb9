namespace EventRelay.Text

/-- The path of a name in a directory. An empty directory adds no slash, and one that ends in a slash
    adds no other. -/
def joinPath (directory name : String) : String :=
  if directory = "" ∨ directory.toList.getLast? = some '/' then directory ++ name
  else directory ++ "/" ++ name

end EventRelay.Text
