import ViewGlue.QualifiedName

/-!
# Symbols of the host's libraries

The classes and functions that generated host code refers to.
-/

namespace ViewGlue.Host.Symbols

/-- Computes a value once and again when its keys change. -/
def remember : QualifiedName := ⟨"androidx.compose.runtime", "remember"⟩

/-- Computes a value that is saved with the screen. -/
def rememberSaveable : QualifiedName :=
  ⟨"androidx.compose.runtime.saveable", "rememberSaveable"⟩

/-- Finds or creates the view model of a key. -/
def viewModel : QualifiedName := ⟨"androidx.lifecycle.viewmodel.compose", "viewModel"⟩

/-- Random numbers. -/
def random : QualifiedName := ⟨"kotlin.random", "Random"⟩

/-- Pairs. -/
def pair : QualifiedName := ⟨"kotlin", "Pair"⟩

/-- Accepts the use of an experimental interface. -/
def optIn : QualifiedName := ⟨"kotlin", "OptIn"⟩

/-- The experimental interface to native code. -/
def foreignApi : QualifiedName := ⟨"kotlinx.cinterop", "ExperimentalForeignApi"⟩

/-- A value that compositions provide. -/
def compositionLocal : QualifiedName :=
  ⟨"androidx.compose.runtime", "ProvidableCompositionLocal"⟩

/-- Creates a value that compositions provide. -/
def compositionLocalOf : QualifiedName := ⟨"androidx.compose.runtime", "compositionLocalOf"⟩

/-- The modifier of a view. -/
def modifier : QualifiedName := ⟨"androidx.compose.ui", "Modifier"⟩

end ViewGlue.Host.Symbols
