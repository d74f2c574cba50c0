/-!
# Powers and sums of numbers

A power and a sum are taken through an instance, and a library of algebra
brings instances of its own along. The ones a number has without it come first
here, so that a width, a bound or a count is the same term in a module that
opens that library and in one that does not.
-/

attribute [instance (1100)] instPowNat
attribute [instance (1100)] Zero.ofOfNat0
attribute [default_instance (20000)] instPowNat
