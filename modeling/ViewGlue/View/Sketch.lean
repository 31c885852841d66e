import ViewGlue.Discovery

/-!
# Sketches

Views that are put together step by step instead of being read from a declaration. A sketch
starts with a slot for the modifier and with the defaults of a run without options, and each
step changes one thing about it.
-/

namespace ViewGlue.View

/-- What a run without options gives to views. -/
def sketchDefaults : ReadingDefaults := .ofOptions {}

/-- The annotation of functions that show views. -/
def composable : QualifiedName := ⟨"androidx.compose.runtime", "Composable"⟩

/-- A view with nothing but a slot. -/
def sketch (name : String) : View where
  name := name
  parameters := [⟨"modifier", .ofDotted Reading.slotClass, true, []⟩]
  group := sketchDefaults.group
  mode := .observed
  retained := false
  renderTarget := sketchDefaults.target .observed
  customTarget := none
  visibility := .everywhere
  file := ⟨"src/commonMain/kotlin/com/example/" ++ name ++ ".kt", "com.example"⟩
  annotations := [⟨composable, none⟩]
  typeParameters := []

/-- The view in another group. -/
def inGroup (view : View) (group : String) : View :=
  { view with group := group }

/-- The view in another render mode, shown by the default of that mode unless it has a render
target of its own. -/
def inMode (view : View) (mode : RenderMode) : View :=
  { view with
    mode := mode
    renderTarget :=
      if view.customTarget.isNone then sketchDefaults.target mode else view.renderTarget }

/-- The view, outliving navigation. -/
def retain (view : View) : View :=
  { view with retained := true }

/-- The view in another source file. -/
def inFile (view : View) (file : SourceFile) : View :=
  { view with file := file }

/-- The view with another visibility. -/
def visibleTo (view : View) (visibility : Visibility) : View :=
  { view with visibility := visibility }

/-- The view with a render target of its own. -/
def shownBy (view : View) (target : String) : View :=
  { view with customTarget := some target, renderTarget := .ofDotted target }

/-- The view with one more data parameter. -/
def takes (view : View) (name : String) (type : TypeExpr) : View :=
  { view with parameters := view.parameters ++ [⟨name, type, false, []⟩] }

/-- Parameters of which the last has one more modifier. -/
def modifyLast (modifier : ParameterModifier) : List Parameter → List Parameter
  | [] => []
  | [parameter] => [{ parameter with modifiers := parameter.modifiers ++ [modifier] }]
  | parameter :: next :: rest => parameter :: modifyLast modifier (next :: rest)

/-- The view with one more modifier for its last parameter. -/
def modified (view : View) (modifier : ParameterModifier) : View :=
  { view with parameters := modifyLast modifier view.parameters }

/-- The view without a slot. -/
def withoutSlot (view : View) : View :=
  { view with parameters := view.dataParameters }

/-- The view with a slot that may be left empty. -/
def withOptionalSlot (view : View) : View :=
  { view with
    parameters := view.parameters.map fun parameter =>
      if parameter.isSlot then { parameter with type := parameter.type.withNullable true }
      else parameter }

/-- The view with one more type parameter. -/
def generic (view : View) (typeParameter : String) : View :=
  { view with typeParameters := view.typeParameters ++ [typeParameter] }

/-- The view with one more annotation. -/
def annotated (view : View) (mark : Annotation) : View :=
  { view with annotations := view.annotations ++ [mark] }

/-- A map that a view controller shows, with two data parameters. -/
def mapSketch : View :=
  (((sketch "ShowMap").inMode .controller).retain.takes "coordinate"
    (.ofDotted "com.example.Coord")).takes "title" (.ofDotted "kotlin.String")

/-- An observed badge without a slot, which can be tapped. -/
def badgeSketch : View :=
  ((sketch "ShowBadge").withoutSlot.takes "count" (.ofDotted "kotlin.Int")).takes "onTap"
    (.function [] (.ofDotted "kotlin.Unit") false)

end ViewGlue.View

namespace ViewGlue.Project

/-- A project of sketches. -/
def ofViews (target : BuildTarget) (runtime : RuntimePackage) (views : List View) : Project :=
  ⟨target, views, [], runtime⟩

end ViewGlue.Project
