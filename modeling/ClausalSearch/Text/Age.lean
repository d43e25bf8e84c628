import ClausalSearch.Text.CharSet

/-!
The version of the character database since which each code point is assigned.
-/
namespace ClausalSearch.Text

/-- A letter for the version, in the order of code points, each with the number of code points in
a row. -/
def ageTable : String :=
  "A502 D4 A30 D8 F1 G1 D18 G3 H11 I14 A89 D5 G2 A47 D1 A10 D5 G17 A70 D9 F1 G8 H5 G3 A2 D1 F13 J4
A2 J2 z2 A1 I3 A1 P1 z4 A7 z1 A1 z1 A20 z1 A44 J1 A7 D1 F2 A1 D1 A1 D1 A1 D1 A1 D1 A18 E2 F1 G5 H4
D1 A12 D1 A66 D1 A12 D1 A41 J1 D2 F2 D4 A53 F2 A2 F2 A2 F2 I1 A28 D2 A8 H2 A2 I6 F16 I4 J16 K2 L2
P8 z1 A38 z2 A7 T1 A39 T1 A1 D1 z2 P2 M1 z1 B17 H1 B13 A10 I1 A9 B1 H3 z8 A27 z4 T1 A5 z11 G4 M1 P1
J5 H1 A1 G9 J5 A1 O1 X1 H1 A1 L1 A26 J5 A19 D3 G3 H6 L1 A14 F2 A72 D2 A5 D1 A15 D1 A30 G2 A10 D5 G1
D14 z1 D30 G3 D27 z2 G3 H30 J18 D49 F1 z14 I59 z2 T3 K46 z2 K15 z1 L28 z2 L1 z1 S11 z5 X31 z1 X2 z5
a1 X8 M1 P1 M11 P6 Q2 X1 R8 W10 X11 T1 R15 Q1 M27 P1 K1 A3 G1 A53 L2 A18 K1 L1 A5 K1 L2 A25 J2 L5
P1 K2 I2 H1 I2 P1 A3 z1 A8 z2 A2 z2 A22 z1 A7 z1 A1 z3 A4 z2 A1 G1 A7 z2 A2 z2 A3 H1 z8 A1 z4 A2 z1
A5 z2 A21 K1 S2 T1 z2 G1 A1 G1 z1 A6 z4 A2 z2 A22 z1 A7 z1 A2 z1 A2 z1 A2 z2 A1 z1 A5 z4 A2 z2 A3
z3 J1 z7 A4 z1 A1 z7 A15 J1 T1 z10 A3 z1 A7 G1 A1 z1 A3 z1 A22 z1 A7 z1 A2 z1 A5 z2 A10 z1 A3 z1 A3
z2 A1 z15 A1 G3 z2 A10 M1 G1 z7 Q1 S6 z1 A3 z1 A8 z2 A2 z2 A22 z1 A7 z1 A2 z1 G1 A4 z2 A8 J1 z2 A2
z2 A3 z7 W1 A2 z4 A2 z1 A3 J2 z2 A11 G1 L6 z10 A2 z1 A6 z3 A3 z1 A4 z3 A2 z1 A1 z1 A2 z3 A2 z3 A3
z3 A8 H1 A3 z4 A5 z3 A3 z1 A4 z2 J1 z6 A1 z14 H1 A12 G8 z5 P1 A3 T1 A8 z1 A3 z1 A23 z1 A10 P1 A5 z2
X1 J1 A7 z1 A3 z1 A4 z7 A2 z1 J2 Q1 z2 X1 z2 A2 J2 z2 A10 z7 U1 J8 R1 P1 A2 T1 A8 z1 A3 z1 A23 z1
A10 z1 A5 z2 G2 A7 z1 A3 z1 A4 z7 A2 z6 X1 A1 z1 A2 I2 z2 A10 z1 I2 Y1 z12 S1 P1 A2 W1 A8 z1 A3 z1
A23 L1 A16 L1 S2 J1 A6 J1 z1 A3 z1 A4 L1 R1 z4 R3 A1 R7 Q1 A2 J2 z2 A10 J6 R3 J7 z1 W1 D2 z1 D18 z3
D24 z1 D9 z1 D1 z2 D7 z3 D1 z4 D6 z1 D1 z1 D8 z6 P10 z2 D3 z12 A58 z4 A29 z37 A2 z1 A1 z1 U1 A2 U1
A1 z1 U1 A1 U6 A4 U1 A7 U1 A3 z1 A1 z1 A1 U2 A2 U1 A13 U1 A3 z2 A5 z1 A1 z1 A6 Y1 z1 A10 z2 A2 M2
z32 B72 z1 B33 D1 J2 z4 B27 L4 B6 D1 B1 z1 B21 D3 B7 D1 B1 D3 z1 D15 z1 J1 D1 H2 J3 K4 L2 z37 D34
J1 D5 J1 D2 J1 D7 J3 D4 J6 D26 J64 K4 J2 A38 z1 M1 z5 M1 z2 A39 F2 H2 A1 H1 M3 A90 K5 A68 K5 A82 K6
D7 H1 D63 H1 D1 z1 D4 z2 D7 z1 D1 z1 D4 z2 D39 H1 D1 z1 D4 z2 D31 H1 D1 z1 D4 z2 D7 z1 D1 z1 D4 z2
D7 H1 D7 z1 D23 H1 D31 H1 D1 z1 D4 z2 D7 H1 D39 H1 D19 z2 L2 H2 D28 z3 H26 z6 D85 Q1 z2 Q6 z2 K1
D630 K9 D29 z3 D81 P8 z7 F13 X1 F7 X1 z9 X1 F23 z9 F20 z12 F13 z1 F3 z1 F2 z12 D93 G1 z2 D10 z6 G10
z6 D15 X1 D10 z6 D88 T1 z7 D42 J1 z5 K70 z10 G29 P2 z1 G12 z4 G12 z4 G1 z3 G42 z2 G5 z11 H42 K2 z4
H26 z6 H10 K1 z3 H2 G32 H28 z2 H2 K63 z1 K29 z2 K11 z6 K10 z6 K14 z2 P15 W2 X14 z49 I76 X1 z1 a2
I45 X2 a1 J43 M3 J12 M6 L52 z8 L4 J56 z3 J15 z3 J51 R9 a2 z5 T43 z2 T3 M8 z8 K35 M4 S1 P2 U1 z5
G108 H88 I7 J28 P15 S4 X1 R1 L1 K1 I2 A155 B1 J4 A90 J6 A22 z2 A6 z2 A38 z2 A6 z2 A8 z1 A1 z1 A1 z1
A1 z1 A31 z2 A53 z1 A15 z1 A14 z2 A6 z1 A19 z2 A3 z1 A9 z1 A47 D1 A23 F1 D6 F5 G2 H2 F1 H7 F5 J1 z1
O4 A7 F1 z2 A27 z1 H5 L8 z3 A11 B1 C1 D3 F2 H4 K3 L1 N1 P3 Q1 S1 X1 z15 A18 D2 F7 H1 I4 J1 z15 A57
D2 G1 H1 F15 H1 I2 J1 K3 A48 D1 I1 J4 K1 Q2 z4 A91 D9 F12 A242 F14 A1 D1 A121 D1 F1 D30 F52 G2 H11
I12 K1 L11 P7 R4 S1 A37 D2 a3 z22 A11 z21 A139 F20 G1 A150 F10 A80 D8 F8 A20 G2 F2 H1 D1 A86 D2 F12
H2 F10 G8 H11 J1 K2 G2 H16 I1 J10 K3 J4 K10 L1 K19 L1 K1 L4 K24 P1 A4 L1 A4 L2 A28 L1 A35 L1 A1 L1
A4 L3 A1 K1 A7 L2 A7 F14 A31 L3 A24 L1 A14 L1 H7 I4 M1 J1 M1 L2 F28 J4 F16 D256 F512 G14 H6 I7 J5
I4 J41 P3 J5 K5 P26 z2 P32 z1 W1 P34 T3 P12 U1 P8 S1 T25 Q4 T15 U1 H47 X1 H47 X1 I13 J3 K1 J3 I4 J6
K2 H107 K7 M2 z5 H45 z1 M1 z5 M1 z2 H54 M2 z7 H1 L1 z14 L1 H23 z9 H7 z1 H7 z1 H7 z1 H7 z1 H7 z1 H7
z1 H7 z1 H7 z1 J32 H24 J4 H2 J19 K1 M10 P7 R2 S5 T5 U1 W3 X11 z34 D26 z1 D89 z12 D214 z26 D12 Z4
A56 D3 F3 D1 A1 z1 A84 F2 z2 A6 F2 A94 F1 z5 A40 J1 S1 T1 z1 A94 z1 A16 D24 L3 W5 H16 J20 a2 z9 Z1
F16 A29 G2 z1 A36 K12 G1 F15 A28 G2 H1 A50 F15 A12 G4 A47 V1 A119 G4 A99 G2 A31 G1 D6582 W10 G64
A20902 H22 J8 K8 M1 Q9 S21 T5 W13 X3 D1165 z3 D18 F2 D16 F1 D12 F1 D3 F1 D1 z9 K48 J300 z20 J32 L2
J18 M8 J28 P6 Q1 M1 K88 z8 H23 I4 J5 I2 J107 L2 Q1 L2 M2 P12 L10 M1 P3 R1 T1 P2 Q6 T2 U6 X2 U5 W4
a3 z2 X2 z1 X1 z1 X5 a3 z21 X3 W2 P1 M2 L1 J5 H44 W1 z3 K10 z6 I56 z8 J69 R1 z8 J12 z6 K28 Q2 T2
J84 z11 J1 K29 z3 K78 z1 K11 z4 K2 P31 z1 J55 z9 J14 z2 J10 z2 J4 K28 P4 K67 z24 K5 M23 z10 L6 z2
L6 z2 L6 z9 L7 z1 L7 z1 P48 Q4 P2 U2 W4 z4 Q80 K46 z2 K10 z6 B11172 z12 K23 z4 K49 z4 B2048 A6702
M2 F59 K3 z2 H106 z38 A7 z12 A5 z5 D1 A25 z1 A5 z1 A1 z1 A2 z1 A2 z1 A108 L16 X1 z16 A365 X16 A64
z2 A54 z7 X1 E32 A12 F1 G1 X2 F16 H10 z6 A4 J3 P7 Q2 A21 F2 G2 A10 z1 A19 z1 A4 z4 A3 F1 A1 z1 A135
z2 A1 z1 A94 F2 A94 z3 A6 z2 A6 z2 A6 z2 A3 z3 A7 z1 A7 z10 D3 C1 A3 G12 z1 G26 z1 G19 z1 G2 z1 G15
z2 G14 z34 G123 z5 G3 z4 G45 z3 G9 H75 P2 R2 z1 J12 W1 z3 P1 z47 J46 z130 J29 z3 J49 z15 P28 z4 E31
P1 E4 z9 S3 E27 z5 P43 z5 G30 z1 G1 H36 z4 H14 z42 E38 G2 E38 G80 z2 G10 z6 R36 z4 R36 z4 P40 z8
P52 z11 P1 X11 z1 X15 z1 X7 z1 X2 z1 X11 z1 X15 z1 X7 z1 X2 z3 a52 z12 P311 z9 P22 z10 P8 z24 X6 z1
X42 z1 X9 z69 G6 z2 G1 z1 G44 z1 G2 z3 G1 z2 G1 K22 z1 K9 P63 z8 P9 z48 Q19 z1 Q2 z5 Q5 I26 K2 z3
I1 J26 z5 J1 z64 M56 z4 Q2 M2 Q16 z2 Q46 H4 z1 H2 z5 H8 z1 H3 z1 H27 T2 z2 H3 z4 H9 T1 z7 H9 z7 K32
P32 z32 P39 z4 P12 z9 K54 z3 K29 z2 K27 z5 K8 P18 z7 P4 z12 P7 z80 K73 z55 Q51 z13 Q51 z7 Q6 T40 z8
T10 z6 a38 z3 a29 z8 a2 z208 K31 z1 W42 z1 W3 z2 W2 z16 a3 z55 a1 Y3 T40 z8 T42 z22 X26 z38 W28 z20
U23 z9 L78 z4 L30 X6 z9 P1 K66 X1 z10 T1 z2 M25 z7 M10 z6 M53 z1 M14 T3 W1 z8 P39 z9 M73 Q4 P1 W2
M10 P1 Q5 z1 P20 z11 P18 z1 P43 R1 Y3 z62 Q7 z1 Q1 z1 Q4 z1 Q15 z1 Q11 z6 P59 z5 P10 z6 Q1 P3 z1 P8
z2 P2 z2 P22 z1 P7 z1 P2 z1 P5 z1 T1 P9 z2 P2 z2 P3 z2 Q1 z6 P1 z5 P7 z2 P7 z3 P5 z11 a10 z1 a1 z2
a1 z1 a38 z1 a10 z1 a1 z2 a1 z1 a4 z1 a10 z1 a2 z8 a2 z29 R90 W1 R1 z1 R1 T1 U1 W2 z30 P72 z8 P10
z166 P54 z2 P18 Q20 z34 P69 z11 P10 z6 R13 z19 M56 U1 X1 z6 M10 z6 a20 z28 Q26 T1 z2 Q15 z4 Q16 X7
z185 T60 z100 P83 z12 P1 W7 z2 W1 z2 W8 z1 W2 z1 W30 z1 W2 z2 W12 z9 W10 z70 U8 z2 U46 z2 U11 z27
S72 z8 S52 U2 S23 T1 S5 z13 X16 P57 z7 Y10 z182 a34 z14 a10 z6 R9 z1 R45 z1 R14 z10 R29 z3 R32 z2
R22 z1 R14 z73 S7 z1 S2 z1 S44 z3 S1 z1 S2 z1 S9 z8 S10 z6 T6 z1 T2 z1 T37 z1 T2 z1 T6 z7 T10 z310
T25 z7 Y17 z1 Y41 z3 Y28 z86 W1 z15 U50 z13 U1 I879 P42 Q1 z102 I99 P12 z1 I4 P1 z11 Q196 z2636 X99
z13 K1071 Y1 U9 Y29 z10 a3995 z5 Q583 z6841 a58 z1734 L569 z7 P31 z1 P10 z4 P2 X79 z1 X10 z6 P30 z2
P6 z10 P70 z10 P10 z1 P7 z1 P21 z5 P19 z432 a58 z198 T91 z101 M69 U6 z4 U1 M47 U9 z7 M17 z64 R1 S1
U2 W1 z11 W2 z14 R6125 T5 U6 z8 R755 W483 z41 a1 W9 z8935 X4 z1 X7 z1 X2 z1 L2 S285 X4 z15 Y1 z29
U3 z2 Y1 z14 U4 z8 S396 z2308 P107 z5 P13 z3 P9 z7 P10 z2 P8 z3932 a250 z6 a436 z76 X46 z2 X23 z9
X116 z60 E246 z10 E39 z2 J1 E180 Q11 X2 z21 H70 z122 Y20 z12 T20 z12 G87 z9 I18 T7 z135 E85 z1 E71
z1 E2 z2 E1 z2 E2 z2 E4 z1 E12 z1 E1 z1 E4 G1 E2 z1 E65 z1 E4 z2 E8 z1 E7 z1 E28 z1 E4 z1 E5 z1 E1
z3 E7 z1 E338 H2 z2 E290 I2 z2 E50 Q652 z15 Q5 z1 Q15 z1104 X31 z6 Y6 z213 R7 z1 R17 z2 R7 z1 R2 z1
R5 z5 Y62 z33 Y1 z112 U45 z3 U14 z2 U10 z4 U2 z320 X31 z17 U58 z5 U1 z464 Y42 z214 a43 z4 a1 z480
X7 z1 X4 z1 X2 z1 X15 z1 P197 z2 P16 z41 R75 U1 z4 R10 z4 R2 z785 T68 z76 U61 z194 M4 z1 M27 z1 M2
z1 M1 z2 M1 z1 M10 z1 M4 z1 M1 z1 M1 z6 M1 z4 M1 z1 M1 z1 M1 z1 M3 z1 M2 z1 M1 z2 M1 z1 M1 z1 M1 z1
M1 z1 M1 z1 M2 z1 M1 z2 M4 z1 M7 z1 M4 z1 M4 z1 M1 z1 M10 z1 M17 z5 M3 z1 M5 z1 M17 z52 M2 z270 J44
z4 J100 z12 L15 z2 L14 P1 z1 L15 z1 L15 P22 z10 K11 P2 W3 K31 T1 L1 K1 L11 K1 L1 K1 L2 K1 L3 K1 L3
K5 L8 K1 L7 K1 L10 M2 U1 W3 L9 K1 L1 K2 L2 K1 L10 K4 L2 K1 L10 R18 W1 z56 L26 K1 L2 z13 K34 L9 R1
z4 K9 z7 L2 z14 S6 z154 L33 P12 Q3 L6 P1 L70 P1 Q2 L20 P12 L37 P1 L5 P4 Q5 P12 L17 P7 Q8 L63 P1 L1
P1 L182 P1 L4 P2 Q1 L62 P2 M4 P7 Q5 L24 P18 R1 P41 R1 P86 L5 M1 L16 M1 L3 M1 L1 M1 L1 M1 L1 M1 L3
M1 L6 M2 L4 M1 L1 M2 L4 M1 L12 P2 Q2 L11 P48 L70 P10 Q1 R2 S2 U1 W2 z4 Y1 X3 P13 z3 P4 R3 S2 T1 U1
W2 z3 L116 Y3 z4 Y5 P85 T4 Y1 z6 U12 z4 X1 z15 P12 z4 P56 z8 P10 z6 P40 z8 P30 z2 W2 a10 z4 a2 z62
S12 W1 U3 Q9 R6 S1 R8 S8 R1 S2 R12 U1 R12 S1 T3 R15 S13 T5 U1 W1 T4 W2 X1 T1 U1 T4 Q5 R13 S6 T11 W2
U6 W3 U2 T10 U6 Q1 T2 U8 W1 X1 U3 S23 T25 U84 z12 T14 z2 U4 W1 Y3 U3 X2 z3 U3 W4 Y2 a1 z5 a1 U6 W19
X4 Y3 W7 X4 Y3 a1 Y1 W3 X3 a1 z7 Y2 W7 X3 Y2 a1 z2 a1 X8 Y1 a1 z6 X7 Y2 z7 W147 z1 W55 a37 W10
z1028 B2 E42711 W7 X2 z32 K4149 X4 Y1 z6 L222 z2 Q5762 z14 S7473 z15 Z622 z2466 E542 z1504 B2 W4939
z5 Y4192 z56398 B2 z65534 B2 z65534 B2 z65534 B2 z65534 B2 z65534 B2 z65534 B2 z65534 B2 z65534 B2
z65534 B2 z65534 B2 z1 E1 z30 E96 z128 G240 z65038 B131074"

def versions : List (List String × String) :=
  [(["1.1", "v11"], "A"), (["2.0", "v20"], "B"), (["2.1", "v21"], "C"), (["3.0", "v30"], "D"),
   (["3.1", "v31"], "E"), (["3.2", "v32"], "F"), (["4.0", "v40"], "G"), (["4.1", "v41"], "H"),
   (["5.0", "v50"], "I"), (["5.1", "v51"], "J"), (["5.2", "v52"], "K"), (["6.0", "v60"], "L"),
   (["6.1", "v61"], "M"), (["6.2", "v62"], "N"), (["6.3", "v63"], "O"), (["7.0", "v70"], "P"),
   (["8.0", "v80"], "Q"), (["9.0", "v90"], "R"), (["10.0", "v100"], "S"), (["11.0", "v110"], "T"),
   (["12.0", "v120"], "U"), (["12.1", "v121"], "V"), (["13.0", "v130"], "W"),
   (["14.0", "v140"], "X"), (["15.0", "v150"], "Y"), (["15.1", "v151"], "Z"),
   (["16.0", "v160"], "a")]

def age? (name : String) : Option CharSet :=
  let older := versions.takeWhile fun entry => !entry.1.contains name
  (versions[older.length]?).map fun entry =>
    tagged ((older ++ [entry]).map (·.2)) (runs ageTable)

end ClausalSearch.Text
