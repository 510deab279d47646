import NotNullLint.Symbol.Method

/-!
# Generated code

A method counts as written by a tool when its host says so, when it or its type carries an
attribute that says so, or when the name of its source file does.
-/

namespace NotNullLint

/-- Attributes that mark generated code. -/
def Attribute.generatedNames : List String :=
  ["GeneratedCodeAttribute", "CompilerGeneratedAttribute"]

/-- Some attribute marks generated code. -/
def Attribute.markGenerated (attributes : List Attribute) : Bool :=
  generatedNames.any (named attributes)

/-- Ends of the names of generated source files. -/
def Path.generatedEndings : List String := [".g.cs", ".g.i.cs", ".designer.cs", ".generated.cs"]

/-- The name of a file marks it as generated. -/
def Path.marksGenerated (p : Path) : Bool :=
  match p.fileName? with
  | none => false
  | some name =>
    let small := Text.lowered name.toList
    generatedEndings.any fun ending => ending.toList.isSuffixOf small

/-- The method is generated, whatever its type. -/
def Method.isGenerated (m : Method) : Bool :=
  m.generated || Attribute.markGenerated m.attributes
    || m.location.any fun l => l.file.marksGenerated

end NotNullLint
