namespace NoteSchema.Text.CharName

/-- Medial letters of syllables, and presentation forms. -/
def forms : String :=
"D7B0 HANGUL JUNGSEONG /O-YEO/O-O-I/YO-A/YO-AE/YO-EO/U-YEO/U-I-I/YU-AE/YU-O/EU-A/EU-EO/EU-E/EU-O
D7BD HANGUL JUNGSEONG /I-YA-O/I-YAE/I-YEO/I-YE/I-O-I/I-YO/I-YU/I-I/ARAEA-A/ARAEA-E
D7CB HANGUL JONGSEONG /NIEUN-RIEUL/NIEUN-CHIEUCH/SSANGTIKEUT/SSANGTIKEUT-PIEUP
D7CF HANGUL JONGSEONG TIKEUT-/PIEUP/SIOS/SIOS-KIYEOK/CIEUC/CHIEUCH/THIEUTH
D7D5 HANGUL JONGSEONG /RIEUL-SSANGKIYEOK/RIEUL-KIYEOK-HIEUH/SSANGRIEUL-KHIEUKH
D7D8 HANGUL JONGSEONG RIEUL-/MIEUM-HIEUH/PIEUP-TIKEUT/PIEUP-PHIEUPH/YESIEUNG/YEORINHIEUH-HIEUH
D7DD HANGUL JONGSEONG /KAPYEOUNRIEUL/MIEUM-NIEUN/MIEUM-SSANGNIEUN/SSANGMIEUM/MIEUM-PIEUP-SIOS
D7E2 HANGUL JONGSEONG /MIEUM-CIEUC/PIEUP-TIKEUT/PIEUP-RIEUL-PHIEUPH/PIEUP-MIEUM/SSANGPIEUP
D7E7 HANGUL JONGSEONG PIEUP-/SIOS-TIKEUT/CIEUC/CHIEUCH
D7EA HANGUL JONGSEONG /SIOS-MIEUM/SIOS-KAPYEOUNPIEUP/SSANGSIOS-KIYEOK/SSANGSIOS-TIKEUT
D7EE HANGUL JONGSEONG SIOS-/PANSIOS/CIEUC/CHIEUCH/THIEUTH/HIEUH
D7F3 HANGUL JONGSEONG /PANSIOS-PIEUP/PANSIOS-KAPYEOUNPIEUP/YESIEUNG-MIEUM/YESIEUNG-HIEUH
D7F7 HANGUL JONGSEONG /CIEUC-PIEUP/CIEUC-SSANGPIEUP/SSANGCIEUC/PHIEUPH-SIOS/PHIEUPH-THIEUTH
FB00 LATIN SMALL LIGATURE /FF/FI/FL/FFI/FFL/LONG S T/ST
FB13 ARMENIAN SMALL LIGATURE /MEN NOW/MEN ECH/MEN INI/VEW NOW/MEN XEH
FB1D HEBREW /LETTER YOD WITH HIRIQ/POINT JUDEO-SPANISH VARIKA/LIGATURE YIDDISH YOD YOD PATAH
FB20 /HEBREW LETTER ALTERNATIVE AYIN
FB21 HEBREW LETTER WIDE /ALEF/DALET/HE/KAF/LAMED/FINAL MEM/RESH/TAV
FB29 /HEBREW LETTER ALTERNATIVE PLUS SIGN
FB2A HEBREW LETTER SHIN WITH /SHIN DOT/SIN DOT/DAGESH AND SHIN DOT/DAGESH AND SIN DOT
FB2E HEBREW LETTER ALEF WITH /PATAH/QAMATS/MAPIQ
FB31 HEBREW LETTER /BET WITH DAGESH/GIMEL WITH DAGESH/DALET WITH DAGESH/HE WITH MAPIQ
FB35 HEBREW LETTER /VAV WITH DAGESH/ZAYIN WITH DAGESH
FB38 HEBREW LETTER /TET WITH DAGESH/YOD WITH DAGESH/FINAL KAF WITH DAGESH/KAF WITH DAGESH
FB3C /HEBREW LETTER LAMED WITH DAGESH
FB3E /HEBREW LETTER MEM WITH DAGESH
FB40 HEBREW LETTER /NUN WITH DAGESH/SAMEKH WITH DAGESH
FB43 HEBREW LETTER /FINAL PE WITH DAGESH/PE WITH DAGESH
FB46 HEBREW LETTER /TSADI WITH DAGESH/QOF WITH DAGESH/RESH WITH DAGESH/SHIN WITH DAGESH
FB4A HEBREW LETTER /TAV WITH DAGESH/VAV WITH HOLAM/BET WITH RAFE/KAF WITH RAFE/PE WITH RAFE
FB4F /HEBREW LIGATURE ALEF LAMED
FB50 ARABIC LETTER ALEF WASLA /ISOLATED FORM/FINAL FORM
FB52 ARABIC LETTER BEEH /ISOLATED FORM/FINAL FORM/INITIAL FORM/MEDIAL FORM
FB56 ARABIC LETTER PEH /ISOLATED FORM/FINAL FORM/INITIAL FORM/MEDIAL FORM
FB5A ARABIC LETTER BEHEH /ISOLATED FORM/FINAL FORM/INITIAL FORM/MEDIAL FORM
FB5E ARABIC LETTER TTEHEH /ISOLATED FORM/FINAL FORM/INITIAL FORM/MEDIAL FORM
FB62 ARABIC LETTER TEHEH /ISOLATED FORM/FINAL FORM/INITIAL FORM/MEDIAL FORM
FB66 ARABIC LETTER TTEH /ISOLATED FORM/FINAL FORM/INITIAL FORM/MEDIAL FORM
FB6A ARABIC LETTER VEH /ISOLATED FORM/FINAL FORM/INITIAL FORM/MEDIAL FORM
FB6E ARABIC LETTER PEHEH /ISOLATED FORM/FINAL FORM/INITIAL FORM/MEDIAL FORM
FB72 ARABIC LETTER DYEH /ISOLATED FORM/FINAL FORM/INITIAL FORM/MEDIAL FORM
FB76 ARABIC LETTER NYEH /ISOLATED FORM/FINAL FORM/INITIAL FORM/MEDIAL FORM
FB7A ARABIC LETTER TCHEH /ISOLATED FORM/FINAL FORM/INITIAL FORM/MEDIAL FORM
FB7E ARABIC LETTER TCHEHEH /ISOLATED FORM/FINAL FORM/INITIAL FORM/MEDIAL FORM
FB82 ARABIC LETTER /DDAHAL ISOLATED FORM/DDAHAL FINAL FORM/DAHAL ISOLATED FORM/DAHAL FINAL FORM
FB86 ARABIC LETTER /DUL ISOLATED FORM/DUL FINAL FORM/DDAL ISOLATED FORM/DDAL FINAL FORM
FB8A ARABIC LETTER /JEH ISOLATED FORM/JEH FINAL FORM/RREH ISOLATED FORM/RREH FINAL FORM
FB8E ARABIC LETTER KEHEH /ISOLATED FORM/FINAL FORM/INITIAL FORM/MEDIAL FORM
FB92 ARABIC LETTER GAF /ISOLATED FORM/FINAL FORM/INITIAL FORM/MEDIAL FORM
FB96 ARABIC LETTER GUEH /ISOLATED FORM/FINAL FORM/INITIAL FORM/MEDIAL FORM
FB9A ARABIC LETTER NGOEH /ISOLATED FORM/FINAL FORM/INITIAL FORM/MEDIAL FORM
FB9E ARABIC LETTER NOON GHUNNA /ISOLATED FORM/FINAL FORM
FBA0 ARABIC LETTER RNOON /ISOLATED FORM/FINAL FORM/INITIAL FORM/MEDIAL FORM
FBA4 ARABIC LETTER HEH WITH YEH ABOVE /ISOLATED FORM/FINAL FORM
FBA6 ARABIC LETTER HEH GOAL /ISOLATED FORM/FINAL FORM/INITIAL FORM/MEDIAL FORM
FBAA ARABIC LETTER HEH DOACHASHMEE /ISOLATED FORM/FINAL FORM/INITIAL FORM/MEDIAL FORM
FBAE ARABIC LETTER YEH BARREE /ISOLATED FORM/FINAL FORM
FBB0 ARABIC LETTER YEH BARREE WITH HAMZA ABOVE /ISOLATED FORM/FINAL FORM
FBB2 ARABIC SYMBOL /DOT ABOVE/DOT BELOW/TWO DOTS ABOVE/TWO DOTS BELOW
FBB6 ARABIC SYMBOL THREE DOTS /ABOVE/BELOW/POINTING DOWNWARDS ABOVE/POINTING DOWNWARDS BELOW
FBBA ARABIC SYMBOL /FOUR DOTS ABOVE/FOUR DOTS BELOW/DOUBLE VERTICAL BAR BELOW
FBBD ARABIC SYMBOL TWO DOTS VERTICALLY /ABOVE/BELOW
FBBF ARABIC SYMBOL /RING/SMALL TAH ABOVE/SMALL TAH BELOW/WASLA ABOVE
FBD3 ARABIC LETTER NG /ISOLATED FORM/FINAL FORM/INITIAL FORM/MEDIAL FORM
FBD7 ARABIC LETTER /U ISOLATED FORM/U FINAL FORM/OE ISOLATED FORM/OE FINAL FORM/YU ISOLATED FORM
FBDC ARABIC LETTER /YU FINAL FORM/U WITH HAMZA ABOVE ISOLATED FORM/VE ISOLATED FORM/VE FINAL FORM
FBE0 ARABIC LETTER KIRGHIZ /OE ISOLATED FORM/OE FINAL FORM/YU ISOLATED FORM/YU FINAL FORM
FBE4 ARABIC LETTER E /ISOLATED FORM/FINAL FORM/INITIAL FORM/MEDIAL FORM
FBE8 ARABIC LETTER UIGHUR KAZAKH KIRGHIZ ALEF MAKSURA /INITIAL FORM/MEDIAL FORM
FBEA ARABIC LIGATURE YEH WITH HAMZA ABOVE WITH /ALEF ISOLATED FORM/ALEF FINAL FORM/AE ISOLATED FORM
FBED ARABIC LIGATURE YEH WITH HAMZA ABOVE WITH /AE FINAL FORM/WAW ISOLATED FORM/WAW FINAL FORM
FBF0 ARABIC LIGATURE YEH WITH HAMZA ABOVE WITH /U ISOLATED FORM/U FINAL FORM/OE ISOLATED FORM
FBF3 ARABIC LIGATURE YEH WITH HAMZA ABOVE WITH /OE FINAL FORM/YU ISOLATED FORM/YU FINAL FORM
FBF6 ARABIC LIGATURE YEH WITH HAMZA ABOVE WITH E /ISOLATED FORM/FINAL FORM/INITIAL FORM
FBF9 /ARABIC LIGATURE UIGHUR KIRGHIZ YEH WITH HAMZA ABOVE WITH ALEF MAKSURA ISOLATED FORM
FBFA ARABIC LIGATURE UIGHUR KIRGHIZ YEH WITH HAMZA ABOVE WITH ALEF MAKSURA /FINAL FORM/INITIAL FORM
FBFC ARABIC LETTER FARSI YEH /ISOLATED FORM/FINAL FORM/INITIAL FORM/MEDIAL FORM
FC00 ARABIC LIGATURE YEH WITH HAMZA ABOVE WITH /JEEM ISOLATED FORM/HAH ISOLATED FORM
FC02 ARABIC LIGATURE YEH WITH HAMZA ABOVE WITH /MEEM ISOLATED FORM/ALEF MAKSURA ISOLATED FORM
FC04 /ARABIC LIGATURE YEH WITH HAMZA ABOVE WITH YEH ISOLATED FORM
FC05 ARABIC LIGATURE BEH WITH /JEEM ISOLATED FORM/HAH ISOLATED FORM/KHAH ISOLATED FORM
FC08 ARABIC LIGATURE BEH WITH /MEEM ISOLATED FORM/ALEF MAKSURA ISOLATED FORM/YEH ISOLATED FORM
FC0B ARABIC LIGATURE TEH WITH /JEEM ISOLATED FORM/HAH ISOLATED FORM/KHAH ISOLATED FORM
FC0E ARABIC LIGATURE TEH WITH /MEEM ISOLATED FORM/ALEF MAKSURA ISOLATED FORM/YEH ISOLATED FORM
FC11 ARABIC LIGATURE THEH WITH /JEEM ISOLATED FORM/MEEM ISOLATED FORM/ALEF MAKSURA ISOLATED FORM
FC14 /ARABIC LIGATURE THEH WITH YEH ISOLATED FORM
FC15 ARABIC LIGATURE JEEM WITH /HAH ISOLATED FORM/MEEM ISOLATED FORM
FC17 ARABIC LIGATURE HAH WITH /JEEM ISOLATED FORM/MEEM ISOLATED FORM
FC19 ARABIC LIGATURE KHAH WITH /JEEM ISOLATED FORM/HAH ISOLATED FORM/MEEM ISOLATED FORM
FC1C ARABIC LIGATURE SEEN WITH /JEEM ISOLATED FORM/HAH ISOLATED FORM/KHAH ISOLATED FORM
FC1F ARABIC LIGATURE /SEEN WITH MEEM ISOLATED FORM/SAD WITH HAH ISOLATED FORM
FC21 ARABIC LIGATURE /SAD WITH MEEM ISOLATED FORM/DAD WITH JEEM ISOLATED FORM
FC23 ARABIC LIGATURE DAD WITH /HAH ISOLATED FORM/KHAH ISOLATED FORM/MEEM ISOLATED FORM
FC26 ARABIC LIGATURE TAH WITH /HAH ISOLATED FORM/MEEM ISOLATED FORM
FC28 /ARABIC LIGATURE ZAH WITH MEEM ISOLATED FORM
FC29 ARABIC LIGATURE AIN WITH /JEEM ISOLATED FORM/MEEM ISOLATED FORM
FC2B ARABIC LIGATURE GHAIN WITH /JEEM ISOLATED FORM/MEEM ISOLATED FORM
FC2D ARABIC LIGATURE FEH WITH /JEEM ISOLATED FORM/HAH ISOLATED FORM/KHAH ISOLATED FORM
FC30 ARABIC LIGATURE FEH WITH /MEEM ISOLATED FORM/ALEF MAKSURA ISOLATED FORM/YEH ISOLATED FORM
FC33 ARABIC LIGATURE QAF WITH /HAH ISOLATED FORM/MEEM ISOLATED FORM/ALEF MAKSURA ISOLATED FORM
FC36 /ARABIC LIGATURE QAF WITH YEH ISOLATED FORM
FC37 ARABIC LIGATURE KAF WITH /ALEF ISOLATED FORM/JEEM ISOLATED FORM/HAH ISOLATED FORM
FC3A ARABIC LIGATURE KAF WITH /KHAH ISOLATED FORM/LAM ISOLATED FORM/MEEM ISOLATED FORM
FC3D ARABIC LIGATURE KAF WITH /ALEF MAKSURA ISOLATED FORM/YEH ISOLATED FORM
FC3F ARABIC LIGATURE LAM WITH /JEEM ISOLATED FORM/HAH ISOLATED FORM/KHAH ISOLATED FORM
FC42 ARABIC LIGATURE LAM WITH /MEEM ISOLATED FORM/ALEF MAKSURA ISOLATED FORM/YEH ISOLATED FORM
FC45 ARABIC LIGATURE MEEM WITH /JEEM ISOLATED FORM/HAH ISOLATED FORM/KHAH ISOLATED FORM
FC48 ARABIC LIGATURE MEEM WITH /MEEM ISOLATED FORM/ALEF MAKSURA ISOLATED FORM/YEH ISOLATED FORM
FC4B ARABIC LIGATURE NOON WITH /JEEM ISOLATED FORM/HAH ISOLATED FORM/KHAH ISOLATED FORM
FC4E ARABIC LIGATURE NOON WITH /MEEM ISOLATED FORM/ALEF MAKSURA ISOLATED FORM/YEH ISOLATED FORM
FC51 ARABIC LIGATURE HEH WITH /JEEM ISOLATED FORM/MEEM ISOLATED FORM/ALEF MAKSURA ISOLATED FORM
FC54 /ARABIC LIGATURE HEH WITH YEH ISOLATED FORM
FC55 ARABIC LIGATURE YEH WITH /JEEM ISOLATED FORM/HAH ISOLATED FORM/KHAH ISOLATED FORM
FC58 ARABIC LIGATURE YEH WITH /MEEM ISOLATED FORM/ALEF MAKSURA ISOLATED FORM/YEH ISOLATED FORM
FC5B /ARABIC LIGATURE THAL WITH SUPERSCRIPT ALEF ISOLATED FORM
FC5C /ARABIC LIGATURE REH WITH SUPERSCRIPT ALEF ISOLATED FORM
FC5D /ARABIC LIGATURE ALEF MAKSURA WITH SUPERSCRIPT ALEF ISOLATED FORM
FC5E ARABIC LIGATURE SHADDA WITH /DAMMATAN ISOLATED FORM/KASRATAN ISOLATED FORM/FATHA ISOLATED FORM
FC61 ARABIC LIGATURE SHADDA WITH /DAMMA ISOLATED FORM/KASRA ISOLATED FORM
FC63 /ARABIC LIGATURE SHADDA WITH SUPERSCRIPT ALEF ISOLATED FORM
FC64 ARABIC LIGATURE YEH WITH HAMZA ABOVE WITH /REH FINAL FORM/ZAIN FINAL FORM/MEEM FINAL FORM
FC67 ARABIC LIGATURE YEH WITH HAMZA ABOVE WITH /NOON FINAL FORM/ALEF MAKSURA FINAL FORM
FC69 /ARABIC LIGATURE YEH WITH HAMZA ABOVE WITH YEH FINAL FORM
FC6A ARABIC LIGATURE BEH WITH /REH FINAL FORM/ZAIN FINAL FORM/MEEM FINAL FORM/NOON FINAL FORM
FC6E ARABIC LIGATURE BEH WITH /ALEF MAKSURA FINAL FORM/YEH FINAL FORM
FC70 ARABIC LIGATURE TEH WITH /REH FINAL FORM/ZAIN FINAL FORM/MEEM FINAL FORM/NOON FINAL FORM
FC74 ARABIC LIGATURE TEH WITH /ALEF MAKSURA FINAL FORM/YEH FINAL FORM
FC76 ARABIC LIGATURE THEH WITH /REH FINAL FORM/ZAIN FINAL FORM/MEEM FINAL FORM/NOON FINAL FORM
FC7A ARABIC LIGATURE THEH WITH /ALEF MAKSURA FINAL FORM/YEH FINAL FORM
FC7C ARABIC LIGATURE FEH WITH /ALEF MAKSURA FINAL FORM/YEH FINAL FORM
FC7E ARABIC LIGATURE QAF WITH /ALEF MAKSURA FINAL FORM/YEH FINAL FORM
FC80 ARABIC LIGATURE KAF WITH /ALEF FINAL FORM/LAM FINAL FORM/MEEM FINAL FORM
FC83 ARABIC LIGATURE KAF WITH /ALEF MAKSURA FINAL FORM/YEH FINAL FORM
FC85 ARABIC LIGATURE LAM WITH /MEEM FINAL FORM/ALEF MAKSURA FINAL FORM/YEH FINAL FORM
FC88 ARABIC LIGATURE MEEM WITH /ALEF FINAL FORM/MEEM FINAL FORM
FC8A ARABIC LIGATURE NOON WITH /REH FINAL FORM/ZAIN FINAL FORM/MEEM FINAL FORM/NOON FINAL FORM
FC8E ARABIC LIGATURE NOON WITH /ALEF MAKSURA FINAL FORM/YEH FINAL FORM
FC90 /ARABIC LIGATURE ALEF MAKSURA WITH SUPERSCRIPT ALEF FINAL FORM
FC91 ARABIC LIGATURE YEH WITH /REH FINAL FORM/ZAIN FINAL FORM/MEEM FINAL FORM/NOON FINAL FORM
FC95 ARABIC LIGATURE YEH WITH /ALEF MAKSURA FINAL FORM/YEH FINAL FORM
FC97 ARABIC LIGATURE YEH WITH HAMZA ABOVE WITH /JEEM INITIAL FORM/HAH INITIAL FORM
FC99 ARABIC LIGATURE YEH WITH HAMZA ABOVE WITH /KHAH INITIAL FORM/MEEM INITIAL FORM
FC9B ARABIC LIGATURE /YEH WITH HAMZA ABOVE WITH HEH INITIAL FORM/BEH WITH JEEM INITIAL FORM
FC9D ARABIC LIGATURE BEH WITH /HAH INITIAL FORM/KHAH INITIAL FORM/MEEM INITIAL FORM
FCA0 ARABIC LIGATURE /BEH WITH HEH INITIAL FORM/TEH WITH JEEM INITIAL FORM
FCA2 ARABIC LIGATURE TEH WITH /HAH INITIAL FORM/KHAH INITIAL FORM/MEEM INITIAL FORM
FCA5 ARABIC LIGATURE /TEH WITH HEH INITIAL FORM/THEH WITH MEEM INITIAL FORM
FCA7 ARABIC LIGATURE JEEM WITH /HAH INITIAL FORM/MEEM INITIAL FORM
FCA9 ARABIC LIGATURE HAH WITH /JEEM INITIAL FORM/MEEM INITIAL FORM
FCAB ARABIC LIGATURE KHAH WITH /JEEM INITIAL FORM/MEEM INITIAL FORM
FCAD ARABIC LIGATURE SEEN WITH /JEEM INITIAL FORM/HAH INITIAL FORM/KHAH INITIAL FORM
FCB0 /ARABIC LIGATURE SEEN WITH MEEM INITIAL FORM
FCB1 ARABIC LIGATURE SAD WITH /HAH INITIAL FORM/KHAH INITIAL FORM/MEEM INITIAL FORM
FCB4 ARABIC LIGATURE DAD WITH /JEEM INITIAL FORM/HAH INITIAL FORM/KHAH INITIAL FORM
FCB7 ARABIC LIGATURE /DAD WITH MEEM INITIAL FORM/TAH WITH HAH INITIAL FORM
FCB9 ARABIC LIGATURE /ZAH WITH MEEM INITIAL FORM/AIN WITH JEEM INITIAL FORM
FCBB ARABIC LIGATURE /AIN WITH MEEM INITIAL FORM/GHAIN WITH JEEM INITIAL FORM
FCBD ARABIC LIGATURE /GHAIN WITH MEEM INITIAL FORM/FEH WITH JEEM INITIAL FORM
FCBF ARABIC LIGATURE FEH WITH /HAH INITIAL FORM/KHAH INITIAL FORM/MEEM INITIAL FORM
FCC2 ARABIC LIGATURE QAF WITH /HAH INITIAL FORM/MEEM INITIAL FORM
FCC4 ARABIC LIGATURE KAF WITH /JEEM INITIAL FORM/HAH INITIAL FORM/KHAH INITIAL FORM
FCC7 ARABIC LIGATURE KAF WITH /LAM INITIAL FORM/MEEM INITIAL FORM
FCC9 ARABIC LIGATURE LAM WITH /JEEM INITIAL FORM/HAH INITIAL FORM/KHAH INITIAL FORM
FCCC ARABIC LIGATURE LAM WITH /MEEM INITIAL FORM/HEH INITIAL FORM
FCCE ARABIC LIGATURE MEEM WITH /JEEM INITIAL FORM/HAH INITIAL FORM/KHAH INITIAL FORM
FCD1 /ARABIC LIGATURE MEEM WITH MEEM INITIAL FORM
FCD2 ARABIC LIGATURE NOON WITH /JEEM INITIAL FORM/HAH INITIAL FORM/KHAH INITIAL FORM
FCD5 ARABIC LIGATURE NOON WITH /MEEM INITIAL FORM/HEH INITIAL FORM
FCD7 ARABIC LIGATURE HEH WITH /JEEM INITIAL FORM/MEEM INITIAL FORM/SUPERSCRIPT ALEF INITIAL FORM
FCDA ARABIC LIGATURE YEH WITH /JEEM INITIAL FORM/HAH INITIAL FORM/KHAH INITIAL FORM
FCDD ARABIC LIGATURE YEH WITH /MEEM INITIAL FORM/HEH INITIAL FORM
FCDF ARABIC LIGATURE YEH WITH HAMZA ABOVE WITH /MEEM MEDIAL FORM/HEH MEDIAL FORM
FCE1 ARABIC LIGATURE BEH WITH /MEEM MEDIAL FORM/HEH MEDIAL FORM
FCE3 ARABIC LIGATURE TEH WITH /MEEM MEDIAL FORM/HEH MEDIAL FORM
FCE5 ARABIC LIGATURE THEH WITH /MEEM MEDIAL FORM/HEH MEDIAL FORM
FCE7 ARABIC LIGATURE SEEN WITH /MEEM MEDIAL FORM/HEH MEDIAL FORM
FCE9 ARABIC LIGATURE SHEEN WITH /MEEM MEDIAL FORM/HEH MEDIAL FORM
FCEB ARABIC LIGATURE /KAF WITH LAM MEDIAL FORM/KAF WITH MEEM MEDIAL FORM/LAM WITH MEEM MEDIAL FORM
FCEE ARABIC LIGATURE NOON WITH /MEEM MEDIAL FORM/HEH MEDIAL FORM
FCF0 ARABIC LIGATURE YEH WITH /MEEM MEDIAL FORM/HEH MEDIAL FORM
FCF2 ARABIC LIGATURE SHADDA WITH /FATHA MEDIAL FORM/DAMMA MEDIAL FORM/KASRA MEDIAL FORM
FCF5 ARABIC LIGATURE TAH WITH /ALEF MAKSURA ISOLATED FORM/YEH ISOLATED FORM
FCF7 ARABIC LIGATURE AIN WITH /ALEF MAKSURA ISOLATED FORM/YEH ISOLATED FORM
FCF9 ARABIC LIGATURE GHAIN WITH /ALEF MAKSURA ISOLATED FORM/YEH ISOLATED FORM
FCFB ARABIC LIGATURE SEEN WITH /ALEF MAKSURA ISOLATED FORM/YEH ISOLATED FORM
FCFD ARABIC LIGATURE SHEEN WITH /ALEF MAKSURA ISOLATED FORM/YEH ISOLATED FORM
FCFF ARABIC LIGATURE HAH WITH /ALEF MAKSURA ISOLATED FORM/YEH ISOLATED FORM
FD01 ARABIC LIGATURE JEEM WITH /ALEF MAKSURA ISOLATED FORM/YEH ISOLATED FORM
FD03 ARABIC LIGATURE KHAH WITH /ALEF MAKSURA ISOLATED FORM/YEH ISOLATED FORM
FD05 ARABIC LIGATURE SAD WITH /ALEF MAKSURA ISOLATED FORM/YEH ISOLATED FORM
FD07 ARABIC LIGATURE DAD WITH /ALEF MAKSURA ISOLATED FORM/YEH ISOLATED FORM
FD09 ARABIC LIGATURE SHEEN WITH /JEEM ISOLATED FORM/HAH ISOLATED FORM/KHAH ISOLATED FORM
FD0C ARABIC LIGATURE SHEEN WITH /MEEM ISOLATED FORM/REH ISOLATED FORM
FD0E ARABIC LIGATURE /SEEN WITH REH ISOLATED FORM/SAD WITH REH ISOLATED FORM
FD10 /ARABIC LIGATURE DAD WITH REH ISOLATED FORM
FD11 ARABIC LIGATURE TAH WITH /ALEF MAKSURA FINAL FORM/YEH FINAL FORM
FD13 ARABIC LIGATURE AIN WITH /ALEF MAKSURA FINAL FORM/YEH FINAL FORM
FD15 ARABIC LIGATURE GHAIN WITH /ALEF MAKSURA FINAL FORM/YEH FINAL FORM
FD17 ARABIC LIGATURE SEEN WITH /ALEF MAKSURA FINAL FORM/YEH FINAL FORM
FD19 ARABIC LIGATURE SHEEN WITH /ALEF MAKSURA FINAL FORM/YEH FINAL FORM
FD1B ARABIC LIGATURE HAH WITH /ALEF MAKSURA FINAL FORM/YEH FINAL FORM
FD1D ARABIC LIGATURE JEEM WITH /ALEF MAKSURA FINAL FORM/YEH FINAL FORM
FD1F ARABIC LIGATURE KHAH WITH /ALEF MAKSURA FINAL FORM/YEH FINAL FORM
FD21 ARABIC LIGATURE SAD WITH /ALEF MAKSURA FINAL FORM/YEH FINAL FORM
FD23 ARABIC LIGATURE DAD WITH /ALEF MAKSURA FINAL FORM/YEH FINAL FORM
FD25 ARABIC LIGATURE SHEEN WITH /JEEM FINAL FORM/HAH FINAL FORM/KHAH FINAL FORM/MEEM FINAL FORM
FD29 ARABIC LIGATURE /SHEEN WITH REH FINAL FORM/SEEN WITH REH FINAL FORM/SAD WITH REH FINAL FORM
FD2C ARABIC LIGATURE /DAD WITH REH FINAL FORM/SHEEN WITH JEEM INITIAL FORM
FD2E ARABIC LIGATURE SHEEN WITH /HAH INITIAL FORM/KHAH INITIAL FORM/MEEM INITIAL FORM
FD31 ARABIC LIGATURE /SEEN WITH HEH INITIAL FORM/SHEEN WITH HEH INITIAL FORM
FD33 /ARABIC LIGATURE TAH WITH MEEM INITIAL FORM
FD34 ARABIC LIGATURE SEEN WITH /JEEM MEDIAL FORM/HAH MEDIAL FORM/KHAH MEDIAL FORM
FD37 ARABIC LIGATURE SHEEN WITH /JEEM MEDIAL FORM/HAH MEDIAL FORM/KHAH MEDIAL FORM
FD3A ARABIC LIGATURE /TAH WITH MEEM MEDIAL FORM/ZAH WITH MEEM MEDIAL FORM
FD3C ARABIC LIGATURE ALEF WITH FATHATAN /FINAL FORM/ISOLATED FORM
FD3E ORNATE /LEFT PARENTHESIS/RIGHT PARENTHESIS
FD40 /ARABIC LIGATURE RAHIMAHU ALLAAH
FD41 ARABIC LIGATURE RADI ALLAAHU /ANH/ANHAA/ANHUM/ANHUMAA/ANHUNNA
FD46 ARABIC LIGATURE /SALLALLAAHU ALAYHI WA-AALIH/ALAYHI AS-SALAAM/ALAYHIM AS-SALAAM
FD49 ARABIC LIGATURE /ALAYHIMAA AS-SALAAM/ALAYHI AS-SALAATU WAS-SALAAM/QUDDISA SIRRAH
FD4C ARABIC LIGATURE /SALLALLAHU ALAYHI WAAALIHEE WA-SALLAM/ALAYHAA AS-SALAAM/TABAARAKA WA-TAAALAA
FD4F ARABIC LIGATURE /RAHIMAHUM ALLAAH/TEH WITH JEEM WITH MEEM INITIAL FORM
FD51 ARABIC LIGATURE TEH WITH HAH WITH /JEEM FINAL FORM/JEEM INITIAL FORM/MEEM INITIAL FORM
FD54 /ARABIC LIGATURE TEH WITH KHAH WITH MEEM INITIAL FORM
FD55 ARABIC LIGATURE TEH WITH MEEM WITH /JEEM INITIAL FORM/HAH INITIAL FORM/KHAH INITIAL FORM
FD58 ARABIC LIGATURE JEEM WITH MEEM WITH HAH /FINAL FORM/INITIAL FORM
FD5A ARABIC LIGATURE HAH WITH MEEM WITH /YEH FINAL FORM/ALEF MAKSURA FINAL FORM
FD5C /ARABIC LIGATURE SEEN WITH HAH WITH JEEM INITIAL FORM
FD5D ARABIC LIGATURE SEEN WITH JEEM WITH /HAH INITIAL FORM/ALEF MAKSURA FINAL FORM
FD5F ARABIC LIGATURE SEEN WITH MEEM WITH /HAH FINAL FORM/HAH INITIAL FORM/JEEM INITIAL FORM
FD62 ARABIC LIGATURE SEEN WITH MEEM WITH MEEM /FINAL FORM/INITIAL FORM
FD64 ARABIC LIGATURE SAD WITH HAH WITH HAH /FINAL FORM/INITIAL FORM
FD66 /ARABIC LIGATURE SAD WITH MEEM WITH MEEM FINAL FORM
FD67 ARABIC LIGATURE SHEEN WITH HAH WITH MEEM /FINAL FORM/INITIAL FORM
FD69 ARABIC LIGATURE SHEEN WITH /JEEM WITH YEH FINAL FORM/MEEM WITH KHAH FINAL FORM
FD6B ARABIC LIGATURE SHEEN WITH MEEM WITH /KHAH INITIAL FORM/MEEM FINAL FORM/MEEM INITIAL FORM
FD6E /ARABIC LIGATURE DAD WITH HAH WITH ALEF MAKSURA FINAL FORM
FD6F ARABIC LIGATURE DAD WITH KHAH WITH MEEM /FINAL FORM/INITIAL FORM
FD71 ARABIC LIGATURE TAH WITH MEEM WITH /HAH FINAL FORM/HAH INITIAL FORM/MEEM INITIAL FORM
FD74 ARABIC LIGATURE /TAH WITH MEEM WITH YEH FINAL FORM/AIN WITH JEEM WITH MEEM FINAL FORM
FD76 ARABIC LIGATURE AIN WITH MEEM WITH /MEEM FINAL FORM/MEEM INITIAL FORM/ALEF MAKSURA FINAL FORM
FD79 ARABIC LIGATURE GHAIN WITH MEEM WITH /MEEM FINAL FORM/YEH FINAL FORM/ALEF MAKSURA FINAL FORM
FD7C ARABIC LIGATURE FEH WITH KHAH WITH MEEM /FINAL FORM/INITIAL FORM
FD7E ARABIC LIGATURE QAF WITH MEEM WITH /HAH FINAL FORM/MEEM FINAL FORM
FD80 ARABIC LIGATURE LAM WITH HAH WITH /MEEM FINAL FORM/YEH FINAL FORM/ALEF MAKSURA FINAL FORM
FD83 ARABIC LIGATURE LAM WITH JEEM WITH JEEM /INITIAL FORM/FINAL FORM
FD85 ARABIC LIGATURE LAM WITH KHAH WITH MEEM /FINAL FORM/INITIAL FORM
FD87 ARABIC LIGATURE LAM WITH MEEM WITH HAH /FINAL FORM/INITIAL FORM
FD89 ARABIC LIGATURE MEEM WITH HAH WITH /JEEM INITIAL FORM/MEEM INITIAL FORM/YEH FINAL FORM
FD8C ARABIC LIGATURE MEEM WITH JEEM WITH /HAH INITIAL FORM/MEEM INITIAL FORM
FD8E ARABIC LIGATURE MEEM WITH KHAH WITH /JEEM INITIAL FORM/MEEM INITIAL FORM
FD92 /ARABIC LIGATURE MEEM WITH JEEM WITH KHAH INITIAL FORM
FD93 ARABIC LIGATURE HEH WITH MEEM WITH /JEEM INITIAL FORM/MEEM INITIAL FORM
FD95 ARABIC LIGATURE NOON WITH HAH WITH /MEEM INITIAL FORM/ALEF MAKSURA FINAL FORM
FD97 ARABIC LIGATURE NOON WITH JEEM WITH /MEEM FINAL FORM/MEEM INITIAL FORM/ALEF MAKSURA FINAL FORM
FD9A ARABIC LIGATURE NOON WITH MEEM WITH /YEH FINAL FORM/ALEF MAKSURA FINAL FORM
FD9C ARABIC LIGATURE YEH WITH MEEM WITH MEEM /FINAL FORM/INITIAL FORM
FD9E /ARABIC LIGATURE BEH WITH KHAH WITH YEH FINAL FORM
FD9F ARABIC LIGATURE TEH WITH JEEM WITH /YEH FINAL FORM/ALEF MAKSURA FINAL FORM
FDA1 ARABIC LIGATURE TEH WITH KHAH WITH /YEH FINAL FORM/ALEF MAKSURA FINAL FORM
FDA3 ARABIC LIGATURE TEH WITH MEEM WITH /YEH FINAL FORM/ALEF MAKSURA FINAL FORM
FDA5 ARABIC LIGATURE JEEM WITH /MEEM WITH YEH FINAL FORM/HAH WITH ALEF MAKSURA FINAL FORM
FDA7 /ARABIC LIGATURE JEEM WITH MEEM WITH ALEF MAKSURA FINAL FORM
FDA8 ARABIC LIGATURE /SEEN WITH KHAH WITH ALEF MAKSURA FINAL FORM/SAD WITH HAH WITH YEH FINAL FORM
FDAA ARABIC LIGATURE /SHEEN WITH HAH WITH YEH FINAL FORM/DAD WITH HAH WITH YEH FINAL FORM
FDAC ARABIC LIGATURE LAM WITH /JEEM WITH YEH FINAL FORM/MEEM WITH YEH FINAL FORM
FDAE ARABIC LIGATURE YEH WITH /HAH WITH YEH FINAL FORM/JEEM WITH YEH FINAL FORM
FDB0 ARABIC LIGATURE /YEH WITH MEEM WITH YEH FINAL FORM/MEEM WITH MEEM WITH YEH FINAL FORM
FDB2 ARABIC LIGATURE /QAF WITH MEEM WITH YEH FINAL FORM/NOON WITH HAH WITH YEH FINAL FORM
FDB4 ARABIC LIGATURE /QAF WITH MEEM WITH HAH INITIAL FORM/LAM WITH HAH WITH MEEM INITIAL FORM
FDB6 ARABIC LIGATURE /AIN WITH MEEM WITH YEH FINAL FORM/KAF WITH MEEM WITH YEH FINAL FORM
FDB8 ARABIC LIGATURE /NOON WITH JEEM WITH HAH INITIAL FORM/MEEM WITH KHAH WITH YEH FINAL FORM
FDBA ARABIC LIGATURE /LAM WITH JEEM WITH MEEM INITIAL FORM/KAF WITH MEEM WITH MEEM FINAL FORM
FDBC ARABIC LIGATURE /LAM WITH JEEM WITH MEEM FINAL FORM/NOON WITH JEEM WITH HAH FINAL FORM
FDBE ARABIC LIGATURE /JEEM WITH HAH WITH YEH FINAL FORM/HAH WITH JEEM WITH YEH FINAL FORM
FDC0 ARABIC LIGATURE /MEEM WITH JEEM WITH YEH FINAL FORM/FEH WITH MEEM WITH YEH FINAL FORM
FDC2 ARABIC LIGATURE /BEH WITH HAH WITH YEH FINAL FORM/KAF WITH MEEM WITH MEEM INITIAL FORM
FDC4 ARABIC LIGATURE /AIN WITH JEEM WITH MEEM INITIAL FORM/SAD WITH MEEM WITH MEEM INITIAL FORM
FDC6 ARABIC LIGATURE /SEEN WITH KHAH WITH YEH FINAL FORM/NOON WITH JEEM WITH YEH FINAL FORM
FDCF /ARABIC LIGATURE SALAAMUHU ALAYNAA
FDF0 /ARABIC LIGATURE SALLA USED AS KORANIC STOP SIGN ISOLATED FORM
FDF1 ARABIC LIGATURE /QALA USED AS KORANIC STOP SIGN ISOLATED FORM/ALLAH ISOLATED FORM
FDF3 ARABIC LIGATURE /AKBAR ISOLATED FORM/MOHAMMAD ISOLATED FORM/SALAM ISOLATED FORM
FDF6 ARABIC LIGATURE /RASOUL ISOLATED FORM/ALAYHE ISOLATED FORM/WASALLAM ISOLATED FORM
FDF9 ARABIC LIGATURE /SALLA ISOLATED FORM/SALLALLAHOU ALAYHE WASALLAM/JALLAJALALOUHOU
FDFC /RIAL SIGN
FDFD ARABIC LIGATURE /BISMILLAH AR-RAHMAN AR-RAHEEM/SUBHAANAHU WA TAAALAA/AZZA WA JALL
FE00 VARIATION SELECTOR-/1/2/3/4/5/6/7/8/9/10/11/12/13/14/15/16
FE10 PRESENTATION FORM FOR VERTICAL /COMMA/IDEOGRAPHIC COMMA/IDEOGRAPHIC FULL STOP/COLON/SEMICOLON
FE15 PRESENTATION FORM FOR VERTICAL /EXCLAMATION MARK/QUESTION MARK/LEFT WHITE LENTICULAR BRACKET
FE18 PRESENTATION FORM FOR VERTICAL /RIGHT WHITE LENTICULAR BRAKCET/HORIZONTAL ELLIPSIS
FE20 COMBINING LIGATURE /LEFT HALF/RIGHT HALF
FE22 COMBINING DOUBLE TILDE /LEFT HALF/RIGHT HALF
FE24 COMBINING /MACRON LEFT HALF/MACRON RIGHT HALF/CONJOINING MACRON/LIGATURE LEFT HALF BELOW
FE28 COMBINING /LIGATURE RIGHT HALF BELOW/TILDE LEFT HALF BELOW/TILDE RIGHT HALF BELOW
FE2B COMBINING /MACRON LEFT HALF BELOW/MACRON RIGHT HALF BELOW/CONJOINING MACRON BELOW
FE2E COMBINING CYRILLIC TITLO /LEFT HALF/RIGHT HALF
FE30 PRESENTATION FORM FOR VERTICAL /TWO DOT LEADER/EM DASH/EN DASH/LOW LINE/WAVY LOW LINE
FE35 PRESENTATION FORM FOR VERTICAL /LEFT PARENTHESIS/RIGHT PARENTHESIS/LEFT CURLY BRACKET
FE38 PRESENTATION FORM FOR VERTICAL /RIGHT CURLY BRACKET/LEFT TORTOISE SHELL BRACKET
FE3A PRESENTATION FORM FOR VERTICAL /RIGHT TORTOISE SHELL BRACKET/LEFT BLACK LENTICULAR BRACKET
FE3C PRESENTATION FORM FOR VERTICAL /RIGHT BLACK LENTICULAR BRACKET/LEFT DOUBLE ANGLE BRACKET
FE3E PRESENTATION FORM FOR VERTICAL /RIGHT DOUBLE ANGLE BRACKET/LEFT ANGLE BRACKET
FE40 PRESENTATION FORM FOR VERTICAL /RIGHT ANGLE BRACKET/LEFT CORNER BRACKET/RIGHT CORNER BRACKET
FE43 PRESENTATION FORM FOR VERTICAL /LEFT WHITE CORNER BRACKET/RIGHT WHITE CORNER BRACKET
FE45 /SESAME DOT/WHITE SESAME DOT
FE47 PRESENTATION FORM FOR VERTICAL /LEFT SQUARE BRACKET/RIGHT SQUARE BRACKET
FE49 /DASHED OVERLINE/CENTRELINE OVERLINE/WAVY OVERLINE/DOUBLE WAVY OVERLINE/DASHED LOW LINE
FE4E /CENTRELINE LOW LINE/WAVY LOW LINE
FE50 SMALL /COMMA/IDEOGRAPHIC COMMA/FULL STOP
FE54 SMALL /SEMICOLON/COLON/QUESTION MARK/EXCLAMATION MARK/EM DASH/LEFT PARENTHESIS
FE5A SMALL /RIGHT PARENTHESIS/LEFT CURLY BRACKET/RIGHT CURLY BRACKET/LEFT TORTOISE SHELL BRACKET
FE5E SMALL /RIGHT TORTOISE SHELL BRACKET/NUMBER SIGN/AMPERSAND/ASTERISK/PLUS SIGN/HYPHEN-MINUS
FE64 SMALL /LESS-THAN SIGN/GREATER-THAN SIGN/EQUALS SIGN
FE68 SMALL /REVERSE SOLIDUS/DOLLAR SIGN/PERCENT SIGN/COMMERCIAL AT
FE70 ARABIC /FATHATAN ISOLATED FORM/TATWEEL WITH FATHATAN ABOVE/DAMMATAN ISOLATED FORM
FE73 ARABIC /TAIL FRAGMENT/KASRATAN ISOLATED FORM
FE76 ARABIC /FATHA ISOLATED FORM/FATHA MEDIAL FORM/DAMMA ISOLATED FORM/DAMMA MEDIAL FORM
FE7A ARABIC KASRA /ISOLATED FORM/MEDIAL FORM
FE7C ARABIC SHADDA /ISOLATED FORM/MEDIAL FORM
FE7E ARABIC /SUKUN ISOLATED FORM/SUKUN MEDIAL FORM/LETTER HAMZA ISOLATED FORM
FE81 ARABIC LETTER ALEF WITH MADDA ABOVE /ISOLATED FORM/FINAL FORM
FE83 ARABIC LETTER ALEF WITH HAMZA ABOVE /ISOLATED FORM/FINAL FORM
FE85 ARABIC LETTER WAW WITH HAMZA ABOVE /ISOLATED FORM/FINAL FORM
FE87 ARABIC LETTER ALEF WITH HAMZA BELOW /ISOLATED FORM/FINAL FORM
FE89 ARABIC LETTER YEH WITH HAMZA ABOVE /ISOLATED FORM/FINAL FORM/INITIAL FORM/MEDIAL FORM
FE8D ARABIC LETTER ALEF /ISOLATED FORM/FINAL FORM
FE8F ARABIC LETTER BEH /ISOLATED FORM/FINAL FORM/INITIAL FORM/MEDIAL FORM
FE93 ARABIC LETTER TEH MARBUTA /ISOLATED FORM/FINAL FORM
FE95 ARABIC LETTER TEH /ISOLATED FORM/FINAL FORM/INITIAL FORM/MEDIAL FORM
FE99 ARABIC LETTER THEH /ISOLATED FORM/FINAL FORM/INITIAL FORM/MEDIAL FORM
FE9D ARABIC LETTER JEEM /ISOLATED FORM/FINAL FORM/INITIAL FORM/MEDIAL FORM
FEA1 ARABIC LETTER HAH /ISOLATED FORM/FINAL FORM/INITIAL FORM/MEDIAL FORM
FEA5 ARABIC LETTER KHAH /ISOLATED FORM/FINAL FORM/INITIAL FORM/MEDIAL FORM
FEA9 ARABIC LETTER /DAL ISOLATED FORM/DAL FINAL FORM/THAL ISOLATED FORM/THAL FINAL FORM
FEAD ARABIC LETTER /REH ISOLATED FORM/REH FINAL FORM/ZAIN ISOLATED FORM/ZAIN FINAL FORM
FEB1 ARABIC LETTER SEEN /ISOLATED FORM/FINAL FORM/INITIAL FORM/MEDIAL FORM
FEB5 ARABIC LETTER SHEEN /ISOLATED FORM/FINAL FORM/INITIAL FORM/MEDIAL FORM
FEB9 ARABIC LETTER SAD /ISOLATED FORM/FINAL FORM/INITIAL FORM/MEDIAL FORM
FEBD ARABIC LETTER DAD /ISOLATED FORM/FINAL FORM/INITIAL FORM/MEDIAL FORM
FEC1 ARABIC LETTER TAH /ISOLATED FORM/FINAL FORM/INITIAL FORM/MEDIAL FORM
FEC5 ARABIC LETTER ZAH /ISOLATED FORM/FINAL FORM/INITIAL FORM/MEDIAL FORM
FEC9 ARABIC LETTER AIN /ISOLATED FORM/FINAL FORM/INITIAL FORM/MEDIAL FORM
FECD ARABIC LETTER GHAIN /ISOLATED FORM/FINAL FORM/INITIAL FORM/MEDIAL FORM
FED1 ARABIC LETTER FEH /ISOLATED FORM/FINAL FORM/INITIAL FORM/MEDIAL FORM
FED5 ARABIC LETTER QAF /ISOLATED FORM/FINAL FORM/INITIAL FORM/MEDIAL FORM
FED9 ARABIC LETTER KAF /ISOLATED FORM/FINAL FORM/INITIAL FORM/MEDIAL FORM
FEDD ARABIC LETTER LAM /ISOLATED FORM/FINAL FORM/INITIAL FORM/MEDIAL FORM
FEE1 ARABIC LETTER MEEM /ISOLATED FORM/FINAL FORM/INITIAL FORM/MEDIAL FORM
FEE5 ARABIC LETTER NOON /ISOLATED FORM/FINAL FORM/INITIAL FORM/MEDIAL FORM
FEE9 ARABIC LETTER HEH /ISOLATED FORM/FINAL FORM/INITIAL FORM/MEDIAL FORM
FEED ARABIC LETTER WAW /ISOLATED FORM/FINAL FORM
FEEF ARABIC LETTER ALEF MAKSURA /ISOLATED FORM/FINAL FORM
FEF1 ARABIC LETTER YEH /ISOLATED FORM/FINAL FORM/INITIAL FORM/MEDIAL FORM
FEF5 ARABIC LIGATURE LAM WITH ALEF WITH MADDA ABOVE /ISOLATED FORM/FINAL FORM
FEF7 ARABIC LIGATURE LAM WITH ALEF WITH HAMZA ABOVE /ISOLATED FORM/FINAL FORM
FEF9 ARABIC LIGATURE LAM WITH ALEF WITH HAMZA BELOW /ISOLATED FORM/FINAL FORM
FEFB ARABIC LIGATURE LAM WITH ALEF /ISOLATED FORM/FINAL FORM
FEFF /ZERO WIDTH NO-BREAK SPACE
FF01 FULLWIDTH /EXCLAMATION MARK/QUOTATION MARK/NUMBER SIGN/DOLLAR SIGN/PERCENT SIGN/AMPERSAND
FF07 FULLWIDTH /APOSTROPHE/LEFT PARENTHESIS/RIGHT PARENTHESIS/ASTERISK/PLUS SIGN/COMMA/HYPHEN-MINUS
FF0E FULLWIDTH /FULL STOP/SOLIDUS
FF10 FULLWIDTH DIGIT /ZERO/ONE/TWO/THREE/FOUR/FIVE/SIX/SEVEN/EIGHT/NINE
FF1A FULLWIDTH /COLON/SEMICOLON/LESS-THAN SIGN/EQUALS SIGN/GREATER-THAN SIGN/QUESTION MARK
FF20 /FULLWIDTH COMMERCIAL AT
FF21 FULLWIDTH LATIN CAPITAL LETTER /A/B/C/D/E/F/G/H/I/J/K/L/M/N/O/P/Q/R/S/T/U/V/W/X/Y/Z
FF3B FULLWIDTH /LEFT SQUARE BRACKET/REVERSE SOLIDUS/RIGHT SQUARE BRACKET/CIRCUMFLEX ACCENT/LOW LINE
FF40 /FULLWIDTH GRAVE ACCENT
FF41 FULLWIDTH LATIN SMALL LETTER /A/B/C/D/E/F/G/H/I/J/K/L/M/N/O/P/Q/R/S/T/U/V/W/X/Y/Z
FF5B FULLWIDTH /LEFT CURLY BRACKET/VERTICAL LINE/RIGHT CURLY BRACKET/TILDE/LEFT WHITE PARENTHESIS
FF60 /FULLWIDTH RIGHT WHITE PARENTHESIS
FF61 HALFWIDTH /IDEOGRAPHIC FULL STOP/LEFT CORNER BRACKET/RIGHT CORNER BRACKET/IDEOGRAPHIC COMMA
FF65 HALFWIDTH KATAKANA /MIDDLE DOT/LETTER WO
FF67 HALFWIDTH KATAKANA LETTER SMALL /A/I/U/E/O/YA/YU/YO/TU
FF70 /HALFWIDTH KATAKANA-HIRAGANA PROLONGED SOUND MARK
FF71 HALFWIDTH KATAKANA LETTER /A/I/U/E/O/KA/KI/KU/KE/KO/SA/SI/SU/SE/SO/TA/TI/TU/TE/TO/NA/NI/NU/NE
FF89 HALFWIDTH KATAKANA LETTER /NO/HA/HI/HU/HE/HO/MA/MI/MU/ME/MO/YA/YU/YO/RA/RI/RU/RE/RO/WA/N
FF9E HALFWIDTH KATAKANA /VOICED SOUND MARK/SEMI-VOICED SOUND MARK
FFA0 HALFWIDTH HANGUL /FILLER/LETTER KIYEOK/LETTER SSANGKIYEOK
FFA3 HALFWIDTH HANGUL LETTER /KIYEOK-SIOS/NIEUN/NIEUN-CIEUC/NIEUN-HIEUH/TIKEUT/SSANGTIKEUT/RIEUL
FFAA HALFWIDTH HANGUL LETTER RIEUL-/KIYEOK/MIEUM/PIEUP/SIOS/THIEUTH/PHIEUPH/HIEUH
FFB1 HALFWIDTH HANGUL LETTER /MIEUM/PIEUP/SSANGPIEUP/PIEUP-SIOS/SIOS/SSANGSIOS/IEUNG/CIEUC
FFB9 HALFWIDTH HANGUL LETTER /SSANGCIEUC/CHIEUCH/KHIEUKH/THIEUTH/PHIEUPH/HIEUH
FFC2 HALFWIDTH HANGUL LETTER /A/AE/YA/YAE/EO/E
FFCA HALFWIDTH HANGUL LETTER /YEO/YE/O/WA/WAE/OE
FFD2 HALFWIDTH HANGUL LETTER /YO/U/WEO/WE/WI/YU
FFDA HALFWIDTH HANGUL LETTER /EU/YI/I
FFE0 FULLWIDTH /CENT SIGN/POUND SIGN/NOT SIGN/MACRON/BROKEN BAR/YEN SIGN/WON SIGN
FFE8 HALFWIDTH /FORMS LIGHT VERTICAL/LEFTWARDS ARROW/UPWARDS ARROW/RIGHTWARDS ARROW/DOWNWARDS ARROW
FFED HALFWIDTH /BLACK SQUARE/WHITE CIRCLE
FFF9 INTERLINEAR ANNOTATION /ANCHOR/SEPARATOR/TERMINATOR
FFFC /OBJECT REPLACEMENT CHARACTER/REPLACEMENT CHARACTER"

end NoteSchema.Text.CharName
