import TypeChecker.Text.Packed
import TypeChecker.Text.Units
import Std.Data.HashMap

/-! What Unicode says of characters: which form identifiers, their upper and lower case, where one character may
become several and a final sigma has a form of its own, and the compatibility composition of names, by which two
spellings of a name are the same name. -/

namespace TypeChecker

/-- The item whose interval holds the code point, by bisection. -/
def bisect? {α : Type} (items : Array α) (bounds : α -> Nat × Nat) (point : Nat) := go items.size 0 items.size
where
 go : Nat -> Nat -> Nat -> Option α
  | 0, _, _ => none
  | fuel + 1, low, high => do
   if high <= low then none
   else
    let middle := (low + high) / 2
    let item <- items[middle]?
    if point < (bounds item).1 then go fuel low middle
    else if (bounds item).2 < point then go fuel (middle + 1) high
    else item

/-- Intervals of code points in increasing order. -/
structure CodePointSet where
 intervals : Array (Nat × Nat)

namespace CodePointSet

/-- The numbers of a text, whose digits are characters; one from 73 on says that its number goes on. -/
def numbersOf (value : Nat) : List Char -> List Nat
 | [] => []
 | '\n' :: rest => numbersOf value rest
 | char :: rest =>
  let code := char.toNat
  let digit := if code < 92 then code - 35 else code - 36
  if digit < 73 then (73 * value + digit) :: numbersOf 0 rest else numbersOf (14 * value + digit - 73) rest

/-- How far behind the end of the interval before it one starts, and how many code points follow the first. -/
def intervalsOf (stop : Nat) : List Nat -> List (Nat × Nat)
 | gap :: more :: rest => (stop + gap, stop + gap + more) :: intervalsOf (stop + gap + more) rest
 | _ => []

def ofDigits (digits : String) : CodePointSet := ⟨(intervalsOf 0 (numbersOf 0 digits.toList)).toArray⟩
def contains (set : CodePointSet) (codePoint : Nat) := (bisect? set.intervals id codePoint).isSome

end CodePointSet

def identStartSet : CodePointSet := .ofDigits "
e<(#%<S#.#(#)9%A%s6(.2'+#%#n]'%$&&%#*#%%%#%6%n,%ne,o6%H&#*Kl=(&QMG$%n<%#3$+$.%&#4#%@An2/#<C-$(#)8(#-#'#;;+-):%(5L_X'#6
#+,32(*&$&8%)%#'&'#4#1$%%2$.#,(($&8%)%$%$%$C&%#7%4+%%%8%)%$%''#6#3$;#/*&$&8%)%$%''#B$%%3#5#%('%%&'$%#%$'$'%'.:#X*%%%9%
2'#>%&#&$B#(*%%%9%,%''#C$%$3$5+%%%K&#4#)%,%<()4':%+%#&)_R%$0)_$%#%'%:%#%,%$-#&'%#9&D#d*%F?'nNM8#4((&'#'$+%(/0#5H%#)#&M
%qK%&&)%#%&&K%&&C%&&)%#%&&1%[%&&fI24n/&('uF&3%<)n$'-+415242/%%3VG#(#hn2+K%#)i.AU@&'/N(<Z9-Wn-#n8Q5*Z@1$.N>FM%.F&-)M&%M
&%(%$'#)oPep^&(&H&(&*%#%#%#%A&W%)%#'%%)'&&((/)%%)nO#1#4/n@#(#&,%#&(*#%#%#%2&&)'(#5KouWp,*&'$0H%#)#&Z+#49-)%)%)%)%)%)%)
%)n+#sC%=++'&'(n/('%n3%&)M%n75BT2t%ss8entvHhP&pT'2.$8Q4A&n)K+&n@&f&$%#%*92%%%&%9AV2Tc('#%$/>.9=?+Q@#4'%,.'%K;%%*89'#'T
%#'$&'&#%#<%&-+%0(&(&(-)%)%M%0*nLAwz%09(Sup^r#&nCJ)0')#%,%/%'%#%$%$%nEEqj6c&XL.nO'%naH<*</n2'(&(&(&%G.%<%5%$%1&0FnTjWp
T?'SSB1@)H.@&F(*%'No.6F(F(J,V0-%1%)%$%-%1%)%$'V0q5-8.*<(%L%+j(&#%N%$'#&9.9-Af5%$.8.<kZ*$e#3&%%%?N?'?G*%>?X.8.514nIl[U1
U1FJ>-9pCL*$4%`?.#,8N4R7?90W^$&#1OD;>FA#&#,E'#0R2&9#%#G4%;7$d)%#%&%1%,+QJ*&$&8%)%$%''#6#0'B,%#&#%H%#=#%#PW6&8%BR8$%#oJ
QM&HR8#`M1#l=I)oKNnOcC*&#&*%$%:3#%#n9*&I4#%#@#.J+#9#/P7#6loYCC+%G5#U@nK)%$%H9#=(%$%B2#qG53#%/%DnW#n*yPnAnH5oTou,n:3nmT
5(=pyW)tksvX@nw.t]+A5n(5@6R4&C7)5rhOofcn[n$)#g/e$%#@sm&,noiM,uwA&%)%$%pk3#A%&#2&,rAopQnD)/'++,ry(n.%j%$&#&$&&%.%#%)%d%
&&*%)%>%&%'%#')%qR&;%;%A%;%A%;%A%;%A%;%*nx7A*(pNao$O.)4#qA@6NsR>p-@&#s^)%&%$%1%oU`g+#noH&%=%$%#&#%,%&%#%#*#(#%#%#%%%$%
#&#%#%#%#%#%$%#&&%)%&%&%#%,%3)%%'%3qqLozx1Dqme*p%&rug2tq=3uHor^tAnsRqxR)qnA"

def identContinueSet : CodePointSet := .ofDigits "
S,nX#u$nI;#pD'pRO%#%$%$%#n#-TA*#n@)&(&$%&&,;#B=n6-3,E+-#<&%+%%%'O%`+N:%CZ%%4%).$&,5%]#%)&$&%-#.$&,2#&%]#%'($&%'#8.'#/%
]#%*%%%%8$&,.(%%]#%)&$&%+%.$&,6#`''%%&-#2,4'[#%)%%%&+$/$&,5%]#%)%%%&+$/$&,'#0&[$%)%%%&-#.$&,5%k#((%#%**,&$b#&)0*%,n2#&
+/)%,c$*,/#%#%#($U6%$)-%F-#n?6%,0&(%%%&)'&1.%1vR%-+yX&@%A$B$eB-#&,E%%-nk#nQ.(..,n[-a'^,%?&-*,:0%2U'S3/,5+0%B/&,P0T6,,*
,nQ%%7(#*#&%oXcte$7#nV/(#'.pm(%ni#n;BtO(nD$ons-,j#(,D$n+$pY#'#(#;'(#n.$V4.,*41-@*=/P&S03,/#.,S00#,$&,E%V#%%&$)$%#M')$p
5*%$&,nrxK#w+242'$<%oR,I#vP#p+#o''q%,nqY%%$)&L%(#o7$tc&,,*,C'q=$n*&k-U&nU%Y1C-&$.&Q-+#Q,*%H0%,)$P#0%T0,&%.n-.*#&#o/.),
*&[$%)&$&%-#.$&)''h+%#&#%&%'%#2$n-4-,(#n,60,oh)&+?$n-33,n,/,,*6^1(,p;1o7,k(%$&&%#%$0,nR)&)'#@,L)%&,#--R2qV,Y*%*4,]8%0n
U('#%$%)%#,,T'%$%',,qI&-$%#T)''1-rp8#*1xp'>oq*,n1,J'`)=,t;,sC#%Y+&n,#/$nrod$qn4,t+P&9tC''(,*&)B&o&%nrBTt%Y(T,#2#:'%1nq
R)%3&)%$%'n?#o2)-,qe#b0sa0p=$%,vi)nH)),qv1,pzmwTp7"

def identSurrogateSet : CodePointSet := .ofDigits "pynF,%)*#%,+$&#'+&#%_&#%+vJ#"

variable (codePoint : Nat)
def identStarts := identStartSet.contains codePoint
def identContinues := identContinueSet.contains codePoint

variable (unit : UInt16)
def isAsciiLetter := (0x41 <= unit && unit <= 0x5A) || (0x61 <= unit && unit <= 0x7A)

def isIdentStart :=
 if unit < 0x80 then isAsciiLetter unit || unit == 0x5F
 else identStarts unit.toNat

def isIdentUnit :=
 if unit < 0x80 then isAsciiLetter unit || unit == 0x5F || (0x30 <= unit && unit <= 0x39)
 else identStarts unit.toNat || identContinues unit.toNat

/-- Whether the unit is a high surrogate that can begin an identifier character. -/
def isIdentSurrogate := 0x100 <= unit && identSurrogateSet.contains unit.toNat

variable (first second : UInt16)
/-- Whether two units together are a character that may start an identifier. -/
def isIdentStartPair :=
 if first < 0x100 then isIdentStart first
 else isIdentSurrogate first && isLowSurrogate second && identStarts (pairCodePoint first second)

/-- Whether two units together are a character that may continue an identifier. -/
def isIdentPair :=
 if first < 0x100 then isIdentUnit first
 else isIdentSurrogate first && isLowSurrogate second && (identStarts (pairCodePoint first second) ||
   identContinues (pairCodePoint first second))

def hexValue (digits : List Char) :=
 digits.foldl (fun value digit => 16 * value + (if digit.toNat <= 57 then digit.toNat - 48 else digit.toNat - 87)) 0

/-- Reads a hexadecimal number. -/
def hex (digits : String) := hexValue digits.toList

/-- What a code point becomes. -/
structure CaseEntry where
 (first last step : Nat)
 /-- The difference to add, or the code points that take the place of the one. -/
 change : Int ⊕ List Nat

/-- A mapping of code points in increasing order. -/
abbrev CaseMap := Array CaseEntry

namespace CaseMap

/-- An entry by how far it starts behind the end of the one before it. -/
def readEntry (before : Nat) (text : String) : CaseEntry :=
 if let [single, points] := text.splitOn "=" then
  let point := before + hex single
  ⟨point, point, 1, .inr ((points.splitOn ".").map hex)⟩
 else
  let (place, change) : String × Int := match text.splitOn "+", text.splitOn "~" with
   | [place, delta], _ => (place, hex delta)
   | _, [place, delta] => (place, -(hex delta : Int))
   | _, _ => (text, 0)
  let (place, step) : String × Nat := if let [place, _] := place.splitOn "/" then (place, 2) else (place, 1)
  let (place, more) := if let [place, more] := place.splitOn "-" then (place, hex more) else (place, 0)
  let first := before + hex place
  ⟨first, first + more, step, .inl change⟩

def ofEntries (entries : String) : CaseMap :=
 (entries.splitOn " ").foldl (fun map entry => map.push (readEntry (map.back?.elim 0 (·.last)) entry)) #[]

def apply (map : CaseMap) (point : Nat) :=
 if let some entry := bisect? map (fun entry => (entry.first, entry.last)) point then
  match entry.change with
  | .inr points => points
  | .inl difference =>
   if (point - entry.first) % entry.step == 0 then [((point : Int) + difference).toNat]
   else [point]
 else [point]

end CaseMap
namespace Casing

def packed := "
i!)8d>[6w%D@X@qXMfUm&vP8$M%lA0aZz5y9.i]bUd^~(LNW8w*.8pCs9m,Hzd$V@8AU7NJ<1tguA%t_LZwx(@#7*b:up;XUs~lc2eP@wh1>7vzaVM8b'&>`=8QWge/#q=`^o37M-CgXrG&;jzxYN `Mg!BxDr!]5I7*FGsfB.&vv$2Xf'JWzQ*&:zJ`zc<|YMK:1w1.jE$i>Nha8'A_'f@0B~$dGWcq&tz)X]a(;ARBnH?sUJ:Oj]i')7BrV2`dt!alB,'w7(yLRGpUOV6:VheYBTLaM=b,$n.w;0tC:OeveZW2Q+!z Ta|7Dw9c5=n-[)zf4vMf.2/D2|=+)<j>TlHC-SFu%gPM(gmLCZM^0T+'aO,Mu3|,Xo/8X /syAI'SRz,AXXvG34$TFaKNoXxQxT7SRA>-'SqR:e4zjIKr=FU[El3S=&a2U8a;<JU`?Vvb=Q0JV*@(j[<]@&>|PV zrE WFTo+5E]0Ib;<^3cF.KH-|H/MOa4=RBa5O1d^G6p23<FKU0y-'piN`L`Kb.D?&80gLrwQolfi)~Xt6rMfHL%;D+tz*cF$+A8FQS?:C.F'muKuO3li9wG-Qn|+R|9KSq6kW-D:x[x4(Wojz<kZIqe.43Y)<iG[sF0ON%;;C`a=e[$R-0poQ8SMolEgHCP^#Z)uxWgyAYspi*O5T3Id6d)3lOL7&GGEFf3D<<
uq9t%)Vm6/yiHC%n$vrxsjMl,u]U'][]m?)5R1=XSEbpZAWDoxtD;p#2A)lO+r5IG(-'-ZtSWK`1f/)fr$&xT5->>9xV*YnFiSO!kbU0pW:e]yf#rc+<iv;P]ks2LcxJ2DOMDfqmiuHSP8Z).x;,sQ 2j4[^dJe/m9G|UO7K/nzhyPX.]j((j*GL(xrBEe%/uq8wSvy[DyN&l2B&F+x5hZ4V*qf_#6JZx`#&xv>ZiFNi-@WMP*Hz^:^5|kxd2;VjZiZL4^-x`VEEF~+V;K9D@yD5R5x_o^)H-N*<2 vDRaD< rwDzkbl-B|7&?*x=lm)w<Ir,XMy5@U|Nth>qpRQ,^@<!&'K/@[]Aj;G<%Zs<A:(cuX,kCoTrQ9(5wmgR*4)rMm:NUv;-[6$@C=O74v8/LF?`zx7HD9B0pdrEjmiA`WO`c2@nk+RYM|PG<a*&J_qY* A:w];TC2xfH)qgF+7)z].1(_7R2`<d2#&yK5v$%U>o|C[JQTyc|s168zesjT&Ni!!x#'zrh8kpFo6NA,?m9'0C:L^BW%##>dC=T.nj3b&=.`!?I'3rWBo0'>i?vqhtWtC1Dv%BG=TrXk|z8+-OILD):Y]s/aPLCODL_dNdb2dG<4jcQ5UEWjxL%VMEhpHA0R),`,:Y'BxT)n;p@bb$z%SI= &^M6i+q$,V`#@JE`I:75DJk-JT7HFXF
C*%naDC_G.a$qN4SRMH1xd/C`SAh5/pM-Lp!)3YJPGeCb-4~=%9Zq,OR++V3ltPAd=g.P6N@bf/,2c4 a>&t[%Yg8%>T@'%5eCC[8C4GDm_e27&DAaKqOZwcD3H~(H#!(q18[7x[2_VO.(5[|:`XG&QSZn(=3l0>=.Qy=w;ZxS/ !%J:wP]fwx5zI.ZAnxVTGF_CsUGKb@,NzT-zMiL)  Opri&e$W(#((o?fGj1?Xo?%m2=RE|v; CRp;w$oe^E?/2*pBymzU_S%TN]- GonG!PoXr_[[iPK<X(kdVK|Y7$T?x=P5Y-r6Ik2nM,7_>Q|.><x:!*8:zU3/NgNEKhBlm=2'>;(f%4fG($*Tz$B/c<>,7X^@)#*AM3ktjsMB5D^>Hs|q5RX]:PZ<Q?n`mwXZF,cJa%TN*] $*H5E7D.MU%9]R68c:= mA?g5xrP|wEYU,E$%-E_7F0q3<re2ya@9nzNvkN0fH^Ct/8tr0$S2MzuyyAlGcW&[$nm_g4jb&DRY+HRPQ=No*7m|Q@:N`Q=5A+aNLk%tvnLmoN]14f+jR_H.<2B(paBSd.IC;7K@Tf=`qG/iR*WA|.f8UqX;7)qghYei4[yys]^fu.1wi-|cadQtZ(^&d@%xArq`EZH?Q_U>LWo&<Z(;N!Arr]>7>.Y&ghk!:L?FsV?p|l-4xGctT+nFUnQ659I32c5f58
BR:~<ox39|d2EEfF_F:PYYlSKwS.DGUmQ WMxcyX5ALl@bw^n#(_aiMe4Q19>$N.Yc31X*CD%pZML~Tc(jWjO,Q.F _K@PNvAWZBjaSff1Ja<8'O*k@'E8Ns`4)Bix7Y, j0i'fi_xnC$f=MfZ<VgZutbxe $PG@>Fz,]i@c5KQlS&boka87'^W|Bd83|_$BLc$+h063c<scsW>%yee`1YH "

def tables := Thunk.mk fun _ => (Packed.unpack 4946 packed).splitOn "\n"
def upperMap : Thunk CaseMap := Thunk.mk fun _ => .ofEntries (tables.get.getD 0 "")
def lowerMap : Thunk CaseMap := Thunk.mk fun _ => .ofEntries (tables.get.getD 1 "")

/-- Letters with case that are not skipped when the end of a word is looked for. -/
def casedSet : Thunk CodePointSet := Thunk.mk fun _ => .ofDigits (tables.get.getD 2 "")

/-- Characters that are skipped when the end of a word is looked for. -/
def caseIgnorableSet : Thunk CodePointSet := Thunk.mk fun _ => .ofDigits (tables.get.getD 3 "")

def upperPoints (points : List Nat) : List Nat :=
 points.flatMap fun point =>
  if point < 0x80 then [if 97 <= point && point <= 122 then point - 32 else point]
  else upperMap.get.apply point

/-- Whether the nearest character that is not skipped has case. -/
def nextIsCased : List Nat -> Bool
 | [] => false
 | point :: rest => if caseIgnorableSet.get.contains point then nextIsCased rest else casedSet.get.contains point

def capitalSigma := 0x3a3

/-- Lower case; `before` holds what stands in front, the nearest first. -/
def lowerFrom (before : List Nat) : List Nat -> List Nat
 | [] => []
 | point :: rest =>
  let mapped :=
   if point < 0x80 then [if 65 <= point && point <= 90 then point + 32 else point]
   else if point == capitalSigma then [if nextIsCased before && !nextIsCased rest then 0x3c2 else 0x3c3]
   else lowerMap.get.apply point
  mapped ++ lowerFrom (point :: before) rest

end Casing
variable (text : String)
def upperCase := String.ofList ((Casing.upperPoints (text.toList.map Char.toNat)).map Char.ofNat)

def lowerCase := String.ofList ((Casing.lowerFrom [] (text.toList.map Char.toNat)).map Char.ofNat)

/-- The unit under which a pattern that ignores case compares a unit: its capital, if that is one
unit, and an ASCII one only for ASCII units. -/
def foldedUnit :=
 if let [point] := Casing.upperPoints [unit.toNat] then
  if 0xFFFF < point || (128 <= unit.toNat && point < 128) then unit else point.toUInt16
 else unit

namespace Compatibility

/-- Reads a number by its distance from another; the mark stands for a smaller one. -/
def hexFrom (base : Nat) (digits : String) :=
 match digits.toList with
 | '~' :: rest => base - hexValue rest
 | rest => base + hexValue rest

def packed := "
Xpjijb$7Q44xG$uZ+6B.4EMe|P&67A QLv07)z<Kl|*&<H(@(81bI@#[np(S=mrPhEOg`xa3$NN&+njxj>Ln')5o<TG!)C-AZwKKgq*8|NJXACO|1&JU'UmTv1_n'~KCbs:u$.*VDz9d)?.sb.4:uWe$S+H6Lp*0R+jTnOiBJEF@/%xEqfh6[Z09Nd,b<Ln6N88^P;mtWynYoO,dWEpQ/OB7g'$%lfygrK<6mn#D^>tT$Xc^HI]18J*<6kOWs-S%hl^Q,pl4Y1s02gZiyfD-|Y:JkW/va83&Hi7C;;^$8>5vwC|Z_Xil_a1kS*QyBxkx&3.%t?1~wLBqnqqCy(YdO*Y;Dkwxtth-)b%2sMFfQa/)tB':L62`vk>R8)pCMzl]PzReHJa,f$z4gw7[]&b.c~KPKEAKsb h.RP4P%x-shCu1_58c3Hu@;9.BA1*|(6x h =]PqSNM[7d_+wNp[tDte2'yj!<g8x>DT*Ys$(yM-mu g)$3WUs+DrB Qfk!xDOXh7kIt|v8%D][fDe5:*=]jF<wcAo4YB+WTlk5(u2'E%,+gq.TXw+tOYc~%bRmKfrdyy3@[3_vGf)G4Q+^p)0jxiOs$'JB*4L8IoPvw HZ`ZF Ot`JK8ijybUAx0+FJQ8s_kI9=%wYymq@ikGWmPI9Gt+!yvEcLwxK8djjt]HQNEFZhr,jQFn3DU1sZi
eO4Z;(=ud-7^w<k~[?v`|.WxN0tE5^*=(kXJz5XOEcU^7HF];@_LU8y<uYrqy<9qUzjJhRbESF#nYCj5W#A0lha@TXKl0?/IoFIpM5PK%&,eqC=^tv>E3T:k M3>xZtUK>zpiqvpwvIC;&1k> /o)27kXsBAnsBUf1^RcR9G!ZVF!Y3R1%>x0=!Ji,Yy&27U'6([u<DE:Ci9mlcTp>k CFP%c$|UjR$35cddE>z0B.q|X$TJJE.]I@Tb2kN0iS)^(LkL>~QF3+p4zI1*!]IVwyEfW4,f%NpjQ z'>V@Mgiq:Lb;gp1S7IjBqO |h+HS?U-|zO))'&!7UQW=ux!lT7[P# ^C,C?]N1LRCUa8 K()iapY/+Edo+K3P(TF<^O'-h*E#qFf+[CvE:ibK^7x=5=8Etz;w/o=SK7ZZpX9;v]K;*Gr<oI W:Wus`Kg0LQeUOvTQd`#2x|BI;Z2LfJED,/!CdY0[xHCAg5*Bge/z@NXnN9B;&Mr#ADTAbW!yUFXTm(;?)EGC3U];gLuu.SW?A[meSzgu.H[8P`r(wT.@1zNK$2LQc2t1ACQE*Q%6EE'j$*8R8!z$VAT-|SS([ccvF3@h?FxuEUQZmEs'$~r:64KrD(j1@o')TM^H;KZfLrS&FZH/bW%1v9%wEjdIw2dC4EvM_#<Tdhq=&m*Qm)<T58P;w*Y#m<;s!w|$tM]B
Kz0`e#F~xaJVqeTszvuo9T-#,n:pF&C[cvikfjg#NwRDw&R0CroD,=BhHu&THA7.[0v_(jqF>LeXr&x*XC<w9*2|%Ctl4(X;))-XsS(*4)5b+;Xp,x1`@AmB+376a](oI!Oc'ZO.Ds:oGn?wgb%n!LV4[)HkYp>@jMNclIKe3(78WYLBo;o11G<>z+Rg76vF+u6'z*j7>7fpKyvVT%OSmE-R<%WC_7Q:>/(,+,qy5eSjF)zJs)OfVWc$TYu8qaQ;@d`Y0;bNiI<+kZj'Yh9l (y^/8j^skse'r*2w4OqX^V1*2lgc(ab7:Ir:&89k*+^ivLSs%Q)QquDV-f~OI(rbw0w.&I~`:?/$i)9k|ppsIz(!#]v8MW4z.C&4`*nC*qzRbZ@GNW0VWe>T@$qmF83(6/nh.q,?G;mC/9*z|mpC-VN(y!M&aLr>`a`&AG=J?(u$M:aY.(;vP[L[LQdGNxV*BI7y,f],7g(l ,FazxRi<@;^cj nJqYJUVAH4Ta4o9'x.*.0toxh_wde8s=.b;@2L0,i!9~ZY[|t`mcT5@_gX6WC?R&Kirx,K0/Fcsfr;W*hf&Pw_XJ&4oO6Z2DY]]Fp8@3duQ>vbb^?V_--xuozRM/h'bq(*|BCpYkqrR<5=3%H,ef@m/]CiCG?GVR8X9hZf@oPVpM+=|tP,my +wIQq;5dCLL7()$QrT@1g7
Z!/Td?D+m8.r%Za0(TUJrC~?DA@6*am2N$n7[nbM'S&fJhKs`oU4>#XR#R_qE0J4^s3@tWl0_$BZJcKP#UFV|0<1s%$>IidWxlVeRVi8_Eb$3[JAf2L[V+YT=Hrdl%R|'GE0Cc4$lZ]x%ehD71N4rQrCH`*W:%AO:(i.e4Ywmc>ko<Cm.w3i@cF]<SOWU?ko*n<I 3btp,.$:VthO$x*tA!K[--RiaKF;WP-[]Tsw0LZ3UBvCK+B1Pyt_-.Zn[D+~>[joW>Oi*|o*U80vqC1@6;)|%pBWX3EHs;/q|JH[&k:V+M[,#$|M#49j 8;@n@&THK91oU4X2]B>Oza^41|%J e-6E3E1`a-b,Q (y3NjxO:.Z(_jvX5d9//!0%Am,V_!5T @kF5.sfsb%+$cp#Vf/D6qOA7xbw:0&`--|H/peCr!zc O~5v%r:Zy;Lc=[0@5MULaRtI%.MDu,S[c?85X2UK-l<x=CRAm4'Z[PYQcN/eE0,D6~G&%9/8hEn02|<'#7dcU#%Qm'B=Zr-Py=89N(pTiXnS$<o&^W^rJ(NASnTG^jqQ!F!7ru@fdlIDqSZ^gCch;Dc$[Ri+1]Q[)AIKpQ]kkz<1fp9Xe<M58[ZjO5MU[!mRaD.@%o2;Z~h)YYZVQa&)?V8/bJ.l&ls|V>(Tc%%))BTdcr1:FJp<+2<`lrzq1=FRRh=0Xt&@1rq
6%sSNO@t~a;(6E0>8p8O64.Oa|.5ggdB#A9oN$Cr@cyGk9w|Gd8;F'^zZj0M@c9)#]~?1A.u[gE9);y(Su58-U2)ogxBE&QWJgY>o_ lzoJA0m<Tam@Jhn3+<A]x8sK$]d*r3wBq)#B]LHxWOz<Jaeg6XWK$HEPTbm)@D0'n<v#J#^c0hrTnq1#)r^^.5od&4DX?!jg.aFn)rTz]>/ECe96#jpX+cxp1:bW!!aN<vz>-TeVv2q&eoWo'B2xayf R?Y2MY%xaMr7<Y&$*!DXS.BTQkoz11nzvFzHDp1gH`ydh3Mt_mWC?=S  AqlvYNUCPQj s+iESwI^W?L_:]Z!~2s)$]FpRu#p'<0wetwEf%3_5M_=~Bb7>z5R <_jmD.:p_e!nL!Sz(^uLHMHP<VT/BZ/8TXa=>jxAc`)TqFEzPK=P&<vE4t:b_C7`@n?#LB2RrKQ8v_`Qg)2V>H>sG,8M<6K`ZKtQW-qDR>tI=~W)vWHSR`D~mO0^IduDc|t=H(FH5H!';Hkk`^*?q-fq`_p7Ks+:I m kMSGwo<uHHFv'>S7Lho9|Vc;[@Xo[_Y2u34tyd[bSCIRUkj?6HOz_0- MXdC7HkCe<0@ OQ<fOfu4`d[3[r/-?<`BF?Npq;CrM)+)u:0^=j( BcP#|7<=>(eTK8K-1(MRUAbMYOivg-Xn*|LOWJ]hyO/%$q,8m;
h![Z$BME:.v&CaAnwAn]$vZhJj62)I`kCO*2,Ky-T&tz?u4ml996V)$P(&G&Le<< 560:40fsA!j~O/%!W;v7<wbTLmP3e$!BfHLq=6XhFXF&<sIQU[[0eL>3Y3V|a_D;S8Hy)P:5E3+mE|/: KiF2A'Xu%'*c5  2|f m1Wnrqaqxbs*[i@gl:F~V)gOZ:0&HY1TufU9hrIZv@&C OMX)6bIK'cl|Q_W)r:>)h%Xd|V/HnlU7XTHO_xsdgZElXjr7 |hic=$g1*,e.^n-%4iS)Dc:BgE4J3_Bq$n;^X|naUk!J_p(uS@m-(m0x1bO~&T,PGNF+/FLH5TzPW+dw|c7/7wFp%1#c5Ps7?2Xz<@pBa`V,8esFKdI~*Yr&3W!f#'h8sHh:Mk|9=P!!X.oX?pJt#|D&T_?+$a-TNMLa[Q?6kH84=u]NEH4Ocj?X6vz~f'lXfhT^'g4-; D;-kV.(e&k1[b7p`9eJQa#F;QkGYT#*T3x`!1X;$O_<C`m0[RlREP~xh-nA3J<>U_@']Pgs?/7V|?5Yjzr&^?<b]OcM`-BOFfItQzE(6Y5b=v:j`NF./%,g3tB9Z_PqG*Y1Eyw5QO;&|zJx!nEc|EJ=/ JyB|<(<:SE>hPd:. W/:~[2!Y/>Wqo?e3:j#hm*CgRC>_ooTVD0XGBnk4B8sa/hv;t>B@/dr^NArv)dNBT;<D8
08ts?NZ50.JuO5*(V)$TP%6#WoHZoBlu-L6frP:&[z.f%WKHK,2%g8o;KFm.M=]RC]RmxD.YL$r(Bi>r]9.la -l#s2u)m%qansg_pU3BD^8YkeoX6u(tUh=4<$8pL!XOG([e(*[*!!H$usVf5(B0k;W'-t|&z4#2G(r5XatFA pii 8$/gtT^*:E;uKmcK)0I>(IrnT=@:lBq[Z<!4|+:oh.w'CAth0,vq$zk+!$`) ugvFahd_HYlD=fo^uwflLpck?cVO&!`n#TW[41JbSZct6v%^1N]A2 xW+;2L<Re33`5wR25clN.szNn8,7Eijh9U&D9$;5,tMh,l3]`YG`sJvOf@7-gk||4g1Uy9=(ORY0CSKNd!^lnk'n]$RFLOn&-7m^-U,':l[&eaD[c$B7V-b9>zg?9=g!@*>;s8-FOlC>qW:el)lh+#BP$127_&' huq,[<V.Vl5pfOEbINEv$^!E7L&I;2_(4WKsgi5,`VcEJ05]*_,lXRrQ7KB3vQFklO`Qv;g*OMSsv;rI.|Y$WON]j%GI ahHTZ8/H;.[UDH#c@Qe9w]/SUQh7LChVvm&c%*+p<0g'*cq]tYv_ wl|!%L^g|nLTB.A74H^&mxQvDKE00_~!50o_sMA6.bH>w_8(u;R*yq$iRzdaET2v&DA!gO<AS;6Cq+WYTamc-?a<r.oWM=AzJsS!WpKJ
F53W(@:h)85%wD=AUGZs2k=fl*lMi14;;>p+M-z*D-ex,Y-L7]ou]VRf~V@]WjnwsjlUHi6M/Wr=A8TuUw)<LJeahCvxSeFdN,3L;1Brp`GA%^,.|K=uHjB'_qdJe4oX|P(O`MKM/n]7<rt.Qw2A@YxWa<kUF|Cwg&*8E2M]s`7(7PU*Oc2 kMr`I'fXVVO[&B+^bQ^i+XT6qH)zLap</$!#o% qhZ189g+O/l@pk(S[D5VGL*K-TxpF$`w3+)2(ml$Vj>c*E&Y]U&q=V=x)9YfP)HtSW*<gSeBZLF(Mtolm] CVjr*wD$2ZsL`@o:m>3;r)-7o!K]!A:l2_^X-#^Na8<@U+#;I8X;o-]fH`C'mo=f_kqX?R5pD/`.Qb%rN8i5b`AaxuyS`h8X4iq>aC/!#@UAW|GBm$,zu4-?u(YB_<oXiBsJWdcu2aewxTQoH$v_*!<+bIc7ko&@vG:BtZi5-P|XW>Gy1KR0(T3we79gl|qMy0^w3c]##HwH!5<J&E=seuS_UT3FKz. [(R4GxQ#^!*uzuOyg*p1RO@EiQGO$CvG/tr'GAh9R:..DSKPCh[Y#XWVS*ks~OjFj/:@huAV)L |ElfB~*6d6v: q.a,fg6DC<!wCrjHjE<nR!Zq^Mtx96u3RkxPpAEI<M^9PG7p2Ru&UM;M YN8>FR9dWdfpCmr50_em(zy9mk?qA
0(@,Tb[n^XS7D#X?O2kzQ/%>M&wd_bjIfW)L1G&w#cc2(aQn&5Iv32sOT`F6*:.[i^9Iz(R_)A'^MChF)T$t]?n(zqKom<t_YM3.GGZ!8*BX<]ufkDWpyfWZUL6v_m~D`.z!YPcfIx LxJF`#*HlDbBQR&5IRl:OZ`#] @,4ibk3y&A4^w!Idi5_H#Sy&Yk%bK~Y!P-!~?'zPw3)8RaXmlv]+tW-p!qat:$$%R;*6:T^@@ LJ8f|df eKl&WEx(PW:~nVu0$(Bx6!rECIZ%v,?60$>'M~S%-|f;/piRsBGRIPwyVIu-Re;;C9lzo&(Gb]aw3iLa_4Dng$=6mlg)OE)(S!67B5SESe` M,OKn;*b#Fue>km7*IjT5FkHSO3n/c$JkPx(;p< mW8|mV,,%%W&[4YUaUhxG)BVtp'YO9Z?1Q^KE`D TS@LuBanki]?+]t'O$ub|>h]GT36?_n91S,SBM6(boy`^q=/poor>y6[Iy.Ph)fA k8u5,OX6R-|g)3+Rnht/$zazlbzl|0Lk[V;s$xWi@`XuV>,r^qk;wZvjo.RbGP8gN&m&qmyzf@k !6zHw<oo^TBX+vm;JbQKn*zM)dlI5zlm>V+,4j)PVe<WcNVb-J0HyY;^D2KSQd!HKKQ`pBAFG|uV<g%(g[7>Oc/jmeUfy<N+bGPdc_>u,3x^MDdDC2-'OSt F/gx
TT'PA=?zJP<`f/DjD?+4dDOz1+ZEiGzl>CYdiLZ. [zCpb`eneX.yPmqb&1_iEDc/U8Ilc+n&_<Z;^A`R9~g|<G|k]peR`GU2y@1J&--RaO@ /ob)I(Qh D4ufHDIS;= fHpBmn-S* bJq,mQSt=VBJSvOi~!#TWGkw9X+BYGSQ'~vb#H|Rio@@!tKDqq1G[-MW+PqCP>X32-NfSU%:?`_ipO[|S.)b/=NwG,PTY#V?Id)8oTDM5wO;n'[=#32Ih%6-6JU$J!@/B~>eun%TAp?/o*/KXe$O4eeINy#0KqvA(OGq^1VRG5s]X0"

/-- The tables:
1. replacements that do not follow from the pairs: the distance from the entry before, then the replacing
   characters, the first by its distance from that of the entry before; `x+n` goes on for `n` further
   characters in step;
2. letters with marks: the distance from the entry before, then the letter, by its own, and the mark;
3. the combining classes of marks, each for a character and a number of further ones. -/
def tables := Thunk.mk fun _ => (Packed.unpack 25038 packed).splitOn "\n"

def entries (table : Nat) :=
 ((tables.get.getD table "").splitOn " ").map fun entry =>
  if let [left, right] := entry.splitOn ":" then (left, right) else (entry, "")

def replacements := Thunk.mk fun _ =>
 ((entries 0).foldl
  (fun (next, last, table) (distance, target) =>
   let first := next + hex distance
   if let [base, count] := target.splitOn "+" then
    let base := hexFrom last base
    let count := hex count + 1
    (first + count, base, (List.range count).foldl (fun table idx => table.insert (first + idx) [base + idx]) table)
   else
    let parts := target.splitOn "."
    let base := hexFrom last (parts.headD "")
    (first + 1, base, table.insert first (base :: parts.tail.map hex)))
  (0, 0, ({} : Std.HashMap Nat (List Nat)))).2.2

def pairs := Thunk.mk fun _ =>
 ((entries 1).foldl
  (fun (last, base, found) (distance, target) =>
   let composed := last + hex distance
   if let [letter, mark] := target.splitOn "." then
    let letter := hexFrom base letter
    (composed, letter, (composed, letter, hex mark) :: found)
   else (composed, base, found))
  (0, 0, [])).2.2

/-- From a composed character to its letter and mark. -/
def parts : Thunk (Std.HashMap Nat (Nat × Nat)) := Thunk.mk fun _ =>
 pairs.get.foldl (fun table (composed, pair) => table.insert composed pair) {}

/-- From a letter and a mark to the composed character. -/
def composites : Thunk (Std.HashMap (Nat × Nat) Nat) := Thunk.mk fun _ =>
 pairs.get.foldl (fun table (composed, pair) => table.insert pair composed) {}

def classes : Thunk (Std.HashMap Nat Nat) := Thunk.mk fun _ =>
 ((entries 2).foldl
  (fun (last, table) (range, value) =>
   let range := (range.splitOn "-").map hex
   let first := last + range.headD 0
   let more := range.getD 1 0
   (first + more, (List.range (more + 1)).foldl (fun table idx => table.insert (first + idx) (hex value)) table))
  (0, {})).2

variable (codePoint : Nat)
def combiningClass := classes.get.getD codePoint 0

/-- Splits a composed character down to its letters and marks. -/
def expand : Nat -> Nat -> List Nat
 | 0, codePoint => [codePoint]
 | fuel + 1, codePoint =>
  if 0xAC00 <= codePoint && codePoint <= 0xD7A3 then
   let idx := codePoint - 0xAC00
   let final := idx % 28
   [0x1100 + idx / 588, 0x1161 + idx % 588 / 28] ++ if final = 0 then [] else [0x11A7 + final]
  else if let some replacement := replacements.get.get? codePoint then replacement
   else if let some (letter, mark) := parts.get.get? codePoint then expand fuel letter ++ expand fuel mark
    else [codePoint]

def insertMark : List Nat -> List Nat
 | [] => [codePoint]
 | last :: rest =>
  if combiningClass codePoint != 0 && combiningClass codePoint < combiningClass last then last :: insertMark rest
  else codePoint :: last :: rest

def compose? (left right : Nat) :=
 if 0x1100 <= left && left < 0x1113 && 0x1161 <= right && right < 0x1176 then
  some (0xAC00 + ((left - 0x1100) * 21 + (right - 0x1161)) * 28)
 else if 0xAC00 <= left && left <= 0xD7A3 && (left - 0xAC00) % 28 = 0 && 0x11A8 <= right && right < 0x11C3 then
  some (left + (right - 0x11A7))
 else composites.get.get? (left, right)

/-- Combines letters with the marks after them. The state is the finished part in reverse, the open
starter, and the marks after it that stay apart, in reverse. -/
def recompose (codePoints : List Nat) := finish (codePoints.foldl step ([], none, []))
where
 finish : List Nat × Nat? × List Nat -> List Nat
  | (done, starter, marks) => (marks ++ (starter.toList ++ done)).reverse
 step : List Nat × Nat? × List Nat -> Nat -> List Nat × Nat? × List Nat
  | (done, none, marks), codePoint =>
   if combiningClass codePoint = 0 then (marks ++ done, codePoint, [])
   else (done, none, codePoint :: marks)
  | (done, some starter, marks), codePoint =>
   let value := combiningClass codePoint
   let blocked := match marks with
    | [] => false
    | last :: _ => value <= combiningClass last
   if let some composed := if blocked then none else compose? starter codePoint then (done, composed, marks)
   else if value = 0 then (marks ++ (starter :: done), codePoint, [])
   else (done, starter, codePoint :: marks)

end Compatibility

def normalizeCompatibility (name : String) :=
 if name.toList.all (·.toNat < 0x80) then name
 else
  let expanded := name.toList.flatMap (Compatibility.expand 8 ·.toNat)
  let ordered := expanded.foldl (fun reversed codePoint => Compatibility.insertMark codePoint reversed) []
  String.ofList ((Compatibility.recompose ordered.reverse).map Char.ofNat)

end TypeChecker
