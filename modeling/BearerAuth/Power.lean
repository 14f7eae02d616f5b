/-!
# Powers

Mathlib brings powers of its own, which are equal to those of the core library but not the same
terms.  Here those of the core library are preferred, so that a definition is one term in the
program, which does without Mathlib, and in the theory, which does not.
-/

attribute [instance (2000), default_instance 20000] instPowNat
