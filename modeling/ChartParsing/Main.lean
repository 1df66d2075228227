import ChartParsing.Demo

/-!
# The demonstration program

Prints the demonstration.
-/

set_option autoImplicit false

def main : IO Unit := IO.print ChartParsing.Demo.text
